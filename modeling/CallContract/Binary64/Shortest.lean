import CallContract.Binary64.Basic

/-!
# The fewest decimal digits that read back

A decimal reads back as a double when it lies between the midpoints to the
two neighbours, the midpoints included when the mantissa is even. The digits
chosen are on the coarsest power of ten that has such a point; of two points
the nearer wins, and of two equally near the even one.
-/

set_option autoImplicit false

namespace CallContract

structure Decimal where
  digits : Nat
  exponent : Int
  deriving DecidableEq, Repr, Inhabited

namespace Decimal

def value (d : Decimal) : Rat :=
  mkRat (d.digits * Nat.pow 10 d.exponent.toNat) (Nat.pow 10 (-d.exponent).toNat)

def trim (d : Decimal) : Decimal :=
  go d.digits d.exponent d.digits.log2
where
  go (n : Nat) (e : Int) : Nat → Decimal
    | 0 => ⟨n, e⟩
    | fuel + 1 => if n ≠ 0 ∧ n % 10 = 0 then go (n / 10) (e + 1) fuel else ⟨n, e⟩

def leading (d : Decimal) : Int :=
  d.exponent + (Nat.toDigits 10 d.digits).length - 1

def positional (d : Decimal) : String :=
  let ds := Nat.toDigits 10 d.digits
  if 0 ≤ d.exponent then String.ofList (ds ++ List.replicate d.exponent.toNat '0')
  else
    let places := (-d.exponent).toNat
    if places < ds.length then
      String.ofList (ds.take (ds.length - places) ++ '.' :: ds.drop (ds.length - places))
    else String.ofList ('0' :: '.' :: List.replicate (places - ds.length) '0' ++ ds)

end Decimal

namespace Binary64

def leadingExponent (num den : Nat) : Int :=
  if den ≤ num then (Nat.toDigits 10 (num / den)).length - 1
  else -(Nat.toDigits 10 (den / num)).length

/-- The point of the grid `10 ^ k` that reads back as `m · 2 ^ e` and is nearest to it. -/
def readsBackOn? (m : Nat) (e k : Int) : Option Nat :=
  let unit := Nat.pow 2 (e - 2).toNat * Nat.pow 10 (-k).toNat
  let step := Nat.pow 2 (2 - e).toNat * Nat.pow 10 k.toNat
  let here := 4 * m * unit
  let low := (if m = Nat.pow 2 52 ∧ -1074 < e then 4 * m - 1 else 4 * m - 2) * unit
  let high := (4 * m + 2) * unit
  let inside (d : Nat) : Bool :=
    if m % 2 = 0 then low ≤ d * step && d * step ≤ high
    else low < d * step && d * step < high
  let below := here / step
  let above := below + 1
  let toBelow := here - below * step
  let toAbove := above * step - here
  match inside below, inside above with
  | false, false => none
  | true, false => some below
  | false, true => some above
  | true, true =>
    if toBelow < toAbove then some below
    else if toAbove < toBelow then some above
    else some (below + below % 2)

def shortest (x : Binary64) : Decimal :=
  if x.mantissa = 0 then ⟨0, 0⟩
  else
    let top := leadingExponent x.ratio.1 x.ratio.2
    (go top 17 0).trim
where
  go (top : Int) : Nat → Nat → Decimal
    | 0, _ => ⟨0, 0⟩
    | fuel + 1, tried =>
      match readsBackOn? x.mantissa x.exponent (top - tried) with
      | some d => ⟨d, top - tried⟩
      | none => go top fuel (tried + 1)

def positional (x : Binary64) : String :=
  (if x.negative then "-" else "") ++ x.shortest.positional

end Binary64

end CallContract
