import CallContract.Pattern.CharSet

/-!
# Classes as they are written

A class in brackets lists characters, ranges, named sets and further classes,
and combines lists by intersection, difference and symmetric difference.
`ClassSet.meaning?` is the set it stands for; a class with an unknown name
stands for none.
-/

set_option autoImplicit false

namespace CallContract.Pattern

inductive ClassOp where
  | intersection
  | difference
  | symmetricDifference
  deriving DecidableEq, Repr

inductive ClassSet where
  | char (c : Char)
  | range (low high : Char)
  /-- Digits, word characters or blanks by their letter; a capital letter stands for all others. -/
  | short (letter : Char)
  | trait (query : List Char) (negated : Bool)
  | ascii (name : String) (negated : Bool)
  | union (items : List ClassSet)
  | op (kind : ClassOp) (left right : ClassSet)
  | bracket (inner : ClassSet) (negated : Bool)
  deriving Repr, Inhabited

namespace ClassSet

def complIf (negated : Bool) (s : CharSet) : CharSet := if negated then .compl s else s

def foldedIf (anyCase : Bool) (s : CharSet) : CharSet := if anyCase then .folded s else s

def shortMeaning? (letter : Char) : Option CharSet :=
  match letter with
  | 'd' => some .digit
  | 'D' => some (.compl .digit)
  | 'w' => some .word
  | 'W' => some (.compl .word)
  | 's' => some .blank
  | 'S' => some (.compl .blank)
  | _ => none

def combine (kind : ClassOp) (a b : CharSet) : CharSet :=
  match kind with
  | .intersection => .inter a b
  | .difference => a.diff b
  | .symmetricDifference => a.symmDiff b

mutual

def meaning? (anyCase : Bool) : ClassSet → Option CharSet
  | .char c => some (.single c)
  | .range low high => some (.range low.toNat high.toNat)
  | .short letter => shortMeaning? letter
  | .trait query negated => (Trait.ofQuery? query).map fun (t, turned) =>
    complIf (negated != turned) (foldedIf anyCase (.trait t))
  | .ascii name negated => (CharSet.named.lookup name).map fun s =>
    complIf negated (foldedIf anyCase s)
  | .union items => unionMeaning? anyCase items
  | .op kind left right => match meaning? anyCase left, meaning? anyCase right with
    | some a, some b => some (combine kind (foldedIf anyCase a) (foldedIf anyCase b))
    | _, _ => none
  | .bracket inner negated => (meaning? anyCase inner).map fun s =>
    complIf negated (foldedIf anyCase s)

def unionMeaning? (anyCase : Bool) : List ClassSet → Option CharSet
  | [] => some .empty
  | x :: rest => match meaning? anyCase x, unionMeaning? anyCase rest with
    | some a, some b => some (.union a b)
    | _, _ => none

end

mutual

def depth : ClassSet → Nat
  | .union [] => 0
  | .union (x :: rest) => max x.depth (unionDepth rest) + 1
  | .op _ left right => max left.depth right.depth + 1
  | .bracket inner _ => inner.depth + 1
  | _ => 0

def unionDepth : List ClassSet → Nat
  | [] => 0
  | x :: rest => max x.depth (unionDepth rest)

end

def ofItems : List ClassSet → ClassSet
  | [x] => x
  | items => .union items

end ClassSet

end CallContract.Pattern
