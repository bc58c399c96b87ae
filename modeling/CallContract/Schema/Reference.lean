import CallContract.Schema.Basic
import CallContract.Json.Pointer

/-!
# References inside a document

A reference is `#` or empty for the whole document, or `#` and a pointer into it. After the `#`
stand the ASCII characters that a URI allows in a fragment; any other byte is percent-encoded. A
reference is always followed from the root of the document that is being used, wherever it stands.
-/

set_option autoImplicit false

namespace CallContract.Schema

inductive DeadReference where
  | strayCharacter (target : String) (index : Nat)
  | badOctet (target : String) (index : Nat)
  | nowhere (pointer : String)
  | notAPosition (piece pointer : String)
  | undecodable (pointer : String)
  | noAnchor (name : String)
  | foreign (target : String)
  deriving DecidableEq, Repr

def DeadReference.message : DeadReference → String
  | .strayCharacter target index =>
    "Invalid URI reference '" ++ target ++ "': unexpected character at index " ++ toString index
  | .badOctet target index =>
    "Invalid URI reference '" ++ target ++ "': invalid percent-encoded octet at index "
      ++ toString index
  | .nowhere pointer => "Pointer '" ++ pointer ++ "' does not exist"
  | .notAPosition piece pointer =>
    "Failed to parse array index '" ++ piece ++ "' in pointer '" ++ pointer ++ "'"
  | .undecodable pointer =>
    "Invalid percent encoding in pointer '" ++ pointer
      ++ "': the decoded bytes do not represent valid UTF-8"
  | .noAnchor name => "Anchor '" ++ name ++ "' does not exist"
  | .foreign target => "Resource '" ++ target ++ "' is not present in a registry"

def hexDigit? (b : UInt8) : Option UInt8 :=
  if 48 ≤ b ∧ b ≤ 57 then some (b - 48)
  else if 65 ≤ b ∧ b ≤ 70 then some (b - 55)
  else if 97 ≤ b ∧ b ≤ 102 then some (b - 87)
  else none

def isFragmentByte (b : UInt8) : Bool :=
  b < 128 && (Char.ofNat b.toNat).isAlphanum || "-._~!$&'()*+,;=:@/?".toUTF8.toList.contains b

def fragmentFault? (target : String) (index : Nat) : List UInt8 → Option DeadReference
  | [] => none
  | 37 :: a :: b :: rest =>
    if (hexDigit? a).isSome && (hexDigit? b).isSome then fragmentFault? target (index + 3) rest
    else some (.badOctet target index)
  | 37 :: _ => some (.badOctet target index)
  | c :: rest =>
    if isFragmentByte c then fragmentFault? target (index + 1) rest
    else some (.strayCharacter target index)

def percentDecode : List UInt8 → List UInt8
  | 37 :: a :: b :: rest =>
    match hexDigit? a, hexDigit? b with
    | some x, some y => (16 * x + y) :: percentDecode rest
    | _, _ => 37 :: percentDecode (a :: b :: rest)
  | c :: rest => c :: percentDecode rest
  | [] => []

def followPieces (pointer : String) : Json → List (List Char) → Except DeadReference Schema
  | x, [] => .ok x
  | .arr items, piece :: rest =>
    match Json.position? piece with
    | none => .error (.notAPosition (String.ofList piece) pointer)
    | some i => match items[i]? with
      | some x => followPieces pointer x rest
      | none => .error (.nowhere pointer)
  | .obj entries, piece :: rest =>
    match entries.lookup (String.ofList (Pointer.unescape piece)) with
    | some x => followPieces pointer x rest
    | none => .error (.nowhere pointer)
  | _, _ :: _ => .error (.nowhere pointer)

def followFragment (root : Schema) : List Char → Except DeadReference Schema
  | [] => .ok root
  | '/' :: pointer =>
    let text := String.ofList ('/' :: pointer)
    let bytes := percentDecode (String.ofList pointer).toUTF8.toList
    match String.fromUTF8? (ByteArray.mk bytes.toArray) with
    | some decoded => followPieces text root (Pointer.pieces decoded.toList)
    | none => .error (.undecodable text)
  | name => .error (.noAnchor (String.ofList name))

def follow (root : Schema) (target : String) : Except DeadReference Schema :=
  match target.toList with
  | [] => .ok root
  | '#' :: fragment =>
    match fragmentFault? target 1 (String.ofList fragment).toUTF8.toList with
    | some cause => .error cause
    | none => followFragment root fragment
  | _ => .error (.foreign target)

def refersToItself (s : Schema) (reference : String) : Bool :=
  match s.keyword? "$ref" with
  | some (.str target) => target == reference
  | _ => false

end CallContract.Schema
