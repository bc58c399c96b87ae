import CallContract.Schema.Use

/-!
# Spots

A schema is read in order, and a reference is followed where it is met first; a
reading of its own starts where one is met again. Only a schema that refers to
itself by the very reference that leads to it is not read again: there the
reference asks nothing. So a schema stands at a spot, which knows the references
met before it.
-/

set_option autoImplicit false

namespace CallContract

/-- A schema with the references met before it. -/
structure Spot where
  schema : Schema
  met : List String
  deriving DecidableEq, Repr

namespace Spot

open Schema

def next (root s : Schema) : StateM (List String) Spot := fun met =>
  (⟨s, met⟩, metAfter root met (uses s))

def places (root : Schema) : List String → List (Keyword Schema) →
    List (List String × Keyword Spot)
  | _, [] => []
  | met, k :: ks =>
    let (placed, after) := k.mapParts (next root) met
    (met, placed) :: places root (metAfter root after (ownUse k)) ks

def target? (root : Schema) (met : List String) (reference : String) : Option Spot :=
  match follow root reference with
  | .error _ => none
  | .ok s =>
    if !met.contains reference then some ⟨s, reference :: met⟩
    else if refersToItself s reference then none
    else some ⟨s, []⟩

end Spot

end CallContract
