/-!
# A place in a text

A cursor holds the text that is still to be read and where in the whole text it
begins. Carriage return and line feed together are one line break, and so is
each of them alone, the next-line control and the two Unicode separators.
-/

set_option autoImplicit false

namespace CallContract.Yaml

def isBreak (c : Char) : Bool :=
  c = '\n' || c = '\r' || c.toNat = 0x85 || c.toNat = 0x2028 || c.toNat = 0x2029

def isBlank (c : Char) : Bool := c = ' ' || c = '\t'

def isGap : Option Char → Bool
  | none => true
  | some c => isBlank c || isBreak c

def breakText (c : Char) : Char :=
  if c.toNat = 0x2028 || c.toNat = 0x2029 then c else '\n'

def isPrintable (c : Char) : Bool :=
  let n := c.toNat
  n = 9 || n = 10 || n = 13 || (0x20 ≤ n && n ≤ 0x7E) || n = 0x85
    || (0xA0 ≤ n && n ≤ 0xFFFD) || 0x10000 ≤ n

structure Cursor where
  rest : List Char
  index : Nat
  line : Nat
  column : Nat
  deriving Repr

namespace Cursor

def start (text : List Char) : Cursor := ⟨text, 0, 0, 0⟩

def head? (c : Cursor) : Option Char := c.rest.head?

def second? (c : Cursor) : Option Char := c.rest[1]?

def skip (c : Cursor) (n : Nat) : Cursor :=
  ⟨c.rest.drop n, c.index + n, c.line, c.column + n⟩

def nextLine (c : Cursor) : Cursor :=
  match c.rest with
  | '\r' :: '\n' :: rest => ⟨rest, c.index + 2, c.line + 1, 0⟩
  | _ :: rest => ⟨rest, c.index + 1, c.line + 1, 0⟩
  | [] => c

def skipWhile (c : Cursor) (p : Char → Bool) : Cursor :=
  c.skip (c.rest.takeWhile p).length

def skipLine (c : Cursor) : Cursor := c.skipWhile fun x => !isBreak x

def atDocumentMark (c : Cursor) : Bool :=
  c.column = 0 && match c.rest with
    | '-' :: '-' :: '-' :: rest => isGap rest.head?
    | '.' :: '.' :: '.' :: rest => isGap rest.head?
    | _ => false

end Cursor

end CallContract.Yaml
