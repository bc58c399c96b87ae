import CallContract.Yaml.Scalar

/-!
# Nodes of a document

A node is a scalar, a sequence or a mapping; aliases are already replaced by
what they stand for. A scalar that is written plainly takes its meaning from its
spelling, any other is text. A node can be held as a value if no integer in it
is too wide and no mapping in it repeats a key.
-/

set_option autoImplicit false

namespace CallContract.Yaml

inductive Node where
  | scalar (text : String) (plain : Bool)
  | sequence (items : List Node)
  /-- Entries are a label, a key and a value. The label is what paths show: the text of a key that
  is a scalar itself, and a question mark for any other. -/
  | mapping (entries : List (String × Node × Node))
  deriving Repr, Inhabited

namespace Node

def empty : Node := .scalar "" true

def meaning (text : String) (plain : Bool) : Scalar :=
  if plain then .ofPlain text else .str text

def isNull : Node → Bool
  | .scalar text plain => plain && Scalar.isNull text
  | _ => false

def isEmpty : Node → Bool
  | .scalar text plain => plain && text.isEmpty
  | _ => false

mutual

def same : Node → Node → Bool
  | .scalar s p, .scalar t q => (meaning s p).same (meaning t q)
  | .sequence xs, .sequence ys => sameItems xs ys
  | .mapping es, .mapping fs => es.length == fs.length && entriesIn es fs
  | _, _ => false

def sameItems : List Node → List Node → Bool
  | [], [] => true
  | x :: xs, y :: ys => same x y && sameItems xs ys
  | _, _ => false

def entriesIn : List (String × Node × Node) → List (String × Node × Node) → Bool
  | [], _ => true
  | (_, k, x) :: es, fs => fs.any (fun f => same k f.2.1 && same x f.2.2) && entriesIn es fs

end

mutual

def isValue : Node → Bool
  | .scalar text plain => match meaning text plain with
    | .wide _ => false
    | _ => true
  | .sequence items => areValues items
  | .mapping entries => areEntries entries

def areValues : List Node → Bool
  | [] => true
  | x :: rest => isValue x && areValues rest

def areEntries : List (String × Node × Node) → Bool
  | [] => true
  | (_, key, value) :: rest =>
    isValue key && isValue value && !rest.any (fun e => same key e.2.1) && areEntries rest

end

end Node

end CallContract.Yaml
