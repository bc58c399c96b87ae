import CallContract.Binary64.Shortest

/-!
# Numbers of JSON values

A number is an integer or a double, and keeps which of the two it is: `1` and
`1.0` print differently. Their order and the engine's equality look only at the
exact value.
-/

set_option autoImplicit false

namespace CallContract

/-- Integers are read only between `-2 ^ 63` and `2 ^ 64`. -/
inductive Number where
  | int (i : Int)
  | float (x : Binary64)
  deriving DecidableEq, Repr, Inhabited

namespace Number

def value : Number → Rat
  | .int i => i
  | .float x => x.value

def toBinary64 : Number → Binary64
  | .int i => .ofInt i
  | .float x => x

def isIntegral : Number → Bool
  | .int _ => true
  | .float x => x.isIntegral

def toInt64? : Number → Option Int
  | .int i => if -0x8000000000000000 ≤ i ∧ i < 0x8000000000000000 then some i else none
  | .float _ => none

def toCount? : Number → Option Nat
  | .int i => if 0 ≤ i ∧ i < 0x10000000000000000 then some i.toNat else none
  | .float _ => none

/-- A size limit: an integer, or a double without a fractional part, which is cut to the range of
64-bit naturals. -/
def toLimit? : Number → Option Nat
  | .int i => some i.toNat
  | .float x =>
    if x.isIntegral then some (min x.value.floor.toNat (UInt64.size - 1)) else none

def alike : Number → Number → Bool
  | .int i, .int j => i == j
  | .float x, .float y => x.value == y.value
  | _, _ => false

/-- Doubles have a point when the leading digit stands between `10 ^ -5` and `10 ^ 15`, and an
exponent otherwise. -/
def floatText (x : Binary64) : String :=
  let d := x.shortest
  let sign := if x.negative then "-" else ""
  if -5 ≤ d.leading ∧ d.leading ≤ 15 then
    sign ++ d.positional ++ (if 0 ≤ d.exponent then ".0" else "")
  else
    let mantissa := match Nat.toDigits 10 d.digits with
      | [] => []
      | [c] => [c]
      | c :: cs => c :: '.' :: cs
    sign ++ String.ofList mantissa ++ "e" ++ (if d.leading < 0 then "-" else "+")
      ++ toString d.leading.natAbs

def text : Number → String
  | .int i => toString i
  | .float x => floatText x

end Number

end CallContract
