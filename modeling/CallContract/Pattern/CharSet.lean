import CallContract.Character.Trait
import CallContract.Character.Folding

/-!
# Sets of characters

Sets are built from ranges and traits. `folded` adds to a set every character
that differs from a member in case alone.
-/

set_option autoImplicit false

namespace CallContract

inductive CharSet where
  | empty
  | range (low high : Nat)
  | trait (t : Trait)
  | word
  | union (a b : CharSet)
  | inter (a b : CharSet)
  | compl (a : CharSet)
  | folded (a : CharSet)
  deriving Inhabited

namespace CharSet

def hasCodePoint : CharSet → Nat → Bool
  | .empty, _ => false
  | .range low high, n => low ≤ n && n ≤ high
  | .trait t, n => t.has n
  | .word, n => Property.word n
  | .union a b, n => a.hasCodePoint n || b.hasCodePoint n
  | .inter a b, n => a.hasCodePoint n && b.hasCodePoint n
  | .compl a, n => !a.hasCodePoint n
  | .folded a, n => (Folding.variants n).any a.hasCodePoint

def has (s : CharSet) (c : Char) : Bool := s.hasCodePoint c.toNat

def single (c : Char) : CharSet := .range c.toNat c.toNat

def ofRanges (rs : List (Nat × Nat)) : CharSet :=
  rs.foldr (fun r s => .union (.range r.1 r.2) s) .empty

def diff (a b : CharSet) : CharSet := .inter a (.compl b)

def symmDiff (a b : CharSet) : CharSet := .union (a.diff b) (b.diff a)

def inLine : CharSet := .compl (.single '\n')

def digit : CharSet := .trait (.categories [.decimalNumber])

def blank : CharSet := .trait (.property .whiteSpace)

def named : List (String × CharSet) := [
  ("alnum", ofRanges [(48, 57), (65, 90), (97, 122)]),
  ("alpha", ofRanges [(65, 90), (97, 122)]),
  ("ascii", .range 0 127),
  ("blank", ofRanges [(9, 9), (32, 32)]),
  ("cntrl", ofRanges [(0, 31), (127, 127)]),
  ("digit", .range 48 57),
  ("graph", .range 33 126),
  ("lower", .range 97 122),
  ("print", .range 32 126),
  ("punct", ofRanges [(33, 47), (58, 64), (91, 96), (123, 126)]),
  ("space", ofRanges [(9, 13), (32, 32)]),
  ("upper", .range 65 90),
  ("word", ofRanges [(48, 57), (65, 90), (95, 95), (97, 122)]),
  ("xdigit", ofRanges [(48, 57), (65, 70), (97, 102)])]

end CharSet

end CallContract
