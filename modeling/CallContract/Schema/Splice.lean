import CallContract.Schema.Check

/-!
# Tuples, sequences and their concatenation

A closed tuple lists its elements under `prefixItems`, which is left out when
there are none, and forbids others. `concat` appends a sequence to a tuple: the
elements one after the other, the bounds of the tail moved by the number of the
head's elements, and the tail's `items` for everything after them. A tail with a
keyword that cannot be moved is refused. A bound that is moved beyond the range
of counts is no bound: sums of counts are checked, and the program stops at one
that is too large.
-/

set_option autoImplicit false

namespace CallContract.Schema

/-- A schema with attributes around it: it stands under `allOf`, so that its own keywords do not
meet theirs. -/
def element (s : Schema) (attributes : Entries) : Schema :=
  .obj (Json.insertEntry "allOf" (.arr [s]) attributes)

def boundedArray (elements : List Schema) (others : Schema) (least : Nat) (most : Option Nat) :
    Schema :=
  .obj ([("items", others)]
    ++ (match most with | some n => [("maxItems", .natural n)] | none => [])
    ++ [("minItems", .natural least)]
    ++ (if elements.isEmpty then [] else [("prefixItems", .arr elements)])
    ++ [("type", .str "array")])

def tuple (parts : List (Schema × Entries)) : Schema :=
  boundedArray (parts.map fun (s, attributes) => element s attributes) (.bool false)
    parts.length none

def sequenceOf (s : Schema) : Schema := .obj [("items", s), ("type", .str "array")]

def movable : List String :=
  ["type", "prefixItems", "items", "minItems", "maxItems", "title", "description", "$comment"]

def elementsOf (s : Schema) : Except SchemaError (List Schema) :=
  match s.elements? with
  | some items => .ok items
  | none => .error (.notATuple s)

def immovable? : Schema → Option String
  | .obj entries => (entries.map (·.1)).find? fun k => !movable.contains k
  | _ => none

def countOf (s : Schema) (keyword : String) : Except SchemaError (Option Nat) :=
  match s.keyword? keyword with
  | none => .ok none
  | some (.num n) => match n.toCount? with
    | some n => .ok (some n)
    | none => .error (.malformed s (.badCount keyword))
  | some _ => .error (.malformed s (.badCount keyword))

def boundBehind (offset : Nat) (s : Schema) (keyword : String) :
    Except SchemaError (Option Nat) := do
  match ← countOf s keyword with
  | none => .ok none
  | some n =>
    if offset + n < 0x10000000000000000 then .ok (some (offset + n)) else .error .overflow

/-- The arrays that begin as the head says and go on as the tail says. -/
def concat (head tail : Schema) : Except SchemaError Schema := do
  let first ← elementsOf head
  let second ← elementsOf tail
  match immovable? tail with
  | some keyword => .error (.unsupportedKeyword keyword tail)
  | none =>
    let least ← boundBehind first.length tail "minItems"
    let most ← boundBehind first.length tail "maxItems"
    .ok (boundedArray (first ++ second) ((tail.keyword? "items").getD any)
      (least.getD first.length) most)

end CallContract.Schema
