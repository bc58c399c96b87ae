import CallContract.Json.Basic

/-!
# Pointers into JSON values

A pointer is the way down from a value: keys of objects and positions of lists.
Its text puts a slash before every step and writes `~` and `/` of a key as `~0`
and `~1`. `Json.at?` follows a pointer and `Json.atText?` follows a text.
-/

set_option autoImplicit false

namespace CallContract

inductive Step where
  | key (name : String)
  | index (i : Nat)
  deriving DecidableEq, Repr, Inhabited

abbrev Pointer := List Step

namespace Pointer

def escapeChar (c : Char) : List Char :=
  if c = '~' then ['~', '0'] else if c = '/' then ['~', '1'] else [c]

def escape (key : List Char) : List Char := key.flatMap escapeChar

/-- Reads `~1` as a slash and `~0` as a tilde; any other tilde, and the character after it, stand
for themselves. -/
def unescape : List Char → List Char
  | [] => []
  | '~' :: '1' :: rest => '/' :: unescape rest
  | '~' :: '0' :: rest => '~' :: unescape rest
  | '~' :: c :: rest => '~' :: c :: unescape rest
  | c :: rest => c :: unescape rest

def stepText : Step → List Char
  | .key name => '/' :: escape name.toList
  | .index i => '/' :: Nat.toDigits 10 i

def chars (p : Pointer) : List Char := p.flatMap stepText

def text (p : Pointer) : String := String.ofList p.chars

def pieces : List Char → List (List Char)
  | [] => [[]]
  | c :: rest =>
    if c = '/' then [] :: pieces rest
    else match pieces rest with
      | [] => [[c]]
      | p :: ps => (c :: p) :: ps

end Pointer

namespace Json

def at? : Json → Pointer → Option Json
  | x, [] => some x
  | .obj entries, .key name :: rest => (entries.lookup name).bind (at? · rest)
  | .arr items, .index i :: rest => (items[i]?).bind (at? · rest)
  | _, _ :: _ => none

def positionOfDigits? (digits : List Char) : Option Nat :=
  let n := digits.foldl (fun n c => n * 10 + (c.toNat - '0'.toNat)) 0
  if digits.isEmpty || !digits.all Char.isDigit || UInt64.size ≤ n then none else some n

def position? : List Char → Option Nat
  | '+' :: digits => positionOfDigits? digits
  | digits => positionOfDigits? digits

def atPieces? : Json → List (List Char) → Option Json
  | x, [] => some x
  | .arr items, piece :: rest =>
    ((position? piece).bind (items[·]?)).bind (atPieces? · rest)
  | .obj entries, piece :: rest =>
    (entries.lookup (String.ofList (Pointer.unescape piece))).bind (atPieces? · rest)
  | _, _ :: _ => none

def atText? (x : Json) (text : String) : Option Json :=
  match text.toList with
  | [] => some x
  | '/' :: rest => atPieces? x (Pointer.pieces rest)
  | _ => none

end Json

end CallContract
