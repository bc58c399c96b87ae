import CallContract.Schema.Keyword

/-!
# What a schema uses

The patterns, references and faults that evaluation of a schema can come to, in
the order of reading. `$defs` is read only through a reference, `then` and
`else` only beside `if`, and `if` only beside one of them. Every reference is
followed where it is met first.
-/

set_option autoImplicit false

namespace CallContract.Schema

inductive Use where
  | pattern (source : String)
  | reference (target : String)
  | fault (cause : Fault)
  deriving DecidableEq, Repr

def ownUse : Keyword Schema → List Use
  | .pattern source => [.pattern source]
  | .reference target => [.reference target]
  | _ => []

def usesWithin : Nat → Schema → List Use
  | 0, _ => []
  | _ + 1, .bool _ => []
  | n + 1, .obj entries => entries.flatMap fun (key, value) =>
    match Keyword.read entries key value with
    | .ok (some k) => ownUse k ++ k.parts.flatMap (usesWithin n)
    | .ok none => []
    | .error cause => [.fault cause]
  | _ + 1, x => [.fault (.piece x (.wrongKinds [.boolean, .object]))]

def uses (s : Schema) : List Use := usesWithin (s.depth + 1) s

/-- Reads uses in order, when some references were met before. `enter` reads what a reference leads
to that is met here. Gives all that is used, and the references met by the end. -/
def readUses (enter : List String → String → List Use × List String) :
    List String → List Use → List Use × List String
  | met, [] => ([], met)
  | met, .reference target :: us =>
    if met.contains target then readUses enter met us
    else
      let below := enter (target :: met) target
      let rest := readUses enter below.2 us
      (.reference target :: (below.1 ++ rest.1), rest.2)
  | met, u :: us =>
    let rest := readUses enter met us
    (u :: rest.1, rest.2)

/-- Reads what a reference leads to, that reference being met. References inside references are
followed to a limited depth. -/
def followUses (root : Schema) : Nat → List String → String → List Use × List String
  | 0, met, _ => ([], met)
  | n + 1, met, target => match follow root target with
    | .ok s => readUses (followUses root n) met (uses s)
    | .error _ => ([], met)

/-- What is used by these uses and by everything that their references lead to, and the references
met by then. Every reference is followed once, so no more can lie inside each other than there are
places in the document. -/
def reachedUses (root : Schema) (met : List String) (us : List Use) : List Use × List String :=
  readUses (followUses root root.nodes) met us

def metAfter (root : Schema) (met : List String) (us : List Use) : List String :=
  (reachedUses root met us).2

end CallContract.Schema
