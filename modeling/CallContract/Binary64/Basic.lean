/-!
# Finite binary64 numbers, exactly

A double is a sign, a mantissa and a power of two. Arithmetic goes through
exact integers and rounds once, to the nearest double with a half going to
the even mantissa. Infinities and NaN are not values here: an operation that
would give one answers `none`.
-/

set_option autoImplicit false

namespace CallContract

/-- The number `± mantissa · 2 ^ exponent`. In canonical form the mantissa has at most 53 bits, and
exactly 53 unless the exponent is the least one, -1074. -/
structure Binary64 where
  negative : Bool
  mantissa : Nat
  exponent : Int
  deriving DecidableEq, Repr, Inhabited

def divNearest (a b : Nat) : Nat :=
  let q := a / b
  let r := a % b
  if 2 * r < b then q else if b < 2 * r then q + 1 else q + q % 2

namespace Binary64

def zero : Binary64 := ⟨false, 0, -1074⟩

def nearest? (negative : Bool) (num den : Nat) : Option Binary64 :=
  if num = 0 then some ⟨negative, 0, -1074⟩ else
    let quotient (e : Int) : Nat × Nat := (num * Nat.pow 2 (-e).toNat, den * Nat.pow 2 e.toNat)
    let low : Int := max (num.log2 - den.log2 - 53) (-1074)
    let fits := (quotient low).1 / (quotient low).2 < Nat.pow 2 53
    let e := if fits then low else low + 1
    let m := divNearest (quotient e).1 (quotient e).2
    let (m, e) := if m = Nat.pow 2 53 then (Nat.pow 2 52, e + 1) else (m, e)
    if e ≤ 971 then some ⟨negative, m, e⟩ else none

def ratio (x : Binary64) : Nat × Nat :=
  (x.mantissa * Nat.pow 2 x.exponent.toNat, Nat.pow 2 (-x.exponent).toNat)

def value (x : Binary64) : Rat :=
  mkRat (if x.negative then -(x.ratio.1 : Int) else x.ratio.1) x.ratio.2

def ofRat? (q : Rat) : Option Binary64 :=
  nearest? (q < 0) q.num.natAbs q.den

/-- Every 64-bit integer has a nearest double; an integer beyond the greatest double gives zero. -/
def ofInt (i : Int) : Binary64 :=
  (nearest? (i < 0) i.natAbs 1).getD zero

def mul? (x y : Binary64) : Option Binary64 :=
  nearest? (x.negative != y.negative) (x.ratio.1 * y.ratio.1) (x.ratio.2 * y.ratio.2)

def div? (x y : Binary64) : Option Binary64 :=
  if y.mantissa = 0 then none
  else nearest? (x.negative != y.negative) (x.ratio.1 * y.ratio.2) (x.ratio.2 * y.ratio.1)

def sub? (x y : Binary64) : Option Binary64 :=
  ofRat? (x.value - y.value)

def powerOfTen? (k : Nat) : Option Binary64 :=
  nearest? false (Nat.pow 10 k) 1

def isIntegral (x : Binary64) : Bool :=
  x.ratio.1 % x.ratio.2 == 0

def epsilon : Rat := mkRat 1 (Nat.pow 2 52)

/-- What is left of a magnitude over a power of ten: it is multiplied by ten, and rounded, until
what follows the point is at most `epsilon`, and that is dropped. -/
def tenths (x : Binary64) (power : Nat) : Nat → Rat
  | 0 => x.value.floor / (Nat.pow 10 power : Int)
  | fuel + 1 =>
    if x.value - x.value.floor ≤ epsilon then x.value.floor / (Nat.pow 10 power : Int)
    else match (powerOfTen? 1).bind x.mul? with
      | some y => tenths y (power + 1) fuel
      | none => x.value.floor / (Nat.pow 10 power : Int)

/-- The fraction with a power of ten below that stands for the double. Past `epsilon`, forty steps
leave nothing behind the point. -/
def tenthsValue (x : Binary64) : Rat :=
  let magnitude := tenths { x with negative := false } 0 40
  if x.negative then -magnitude else magnitude

/-- `significand · 10 ^ exponent` with the significand rounded first and one multiplication or
division after it, in steps of at most 308 powers of ten. `none` is a number too big for a
double. -/
def scaled? (negative : Bool) (significand : Nat) (exponent : Int) : Option Binary64 :=
  match nearest? negative significand 1 with
  | none => none
  | some start =>
    if start.mantissa = 0 then some start
    else if 0 ≤ exponent then
      if exponent ≤ 308 then (powerOfTen? exponent.toNat).bind start.mul? else none
    else shrink start (-exponent).toNat 4
where
  /-- Four steps take every 64-bit significand to zero. -/
  shrink (x : Binary64) (k : Nat) : Nat → Option Binary64
    | 0 => some ⟨x.negative, 0, -1074⟩
    | fuel + 1 =>
      if k ≤ 308 then (powerOfTen? k).bind x.div?
      else match (powerOfTen? 308).bind x.div? with
        | none => none
        | some y => if y.mantissa = 0 then some y else shrink y (k - 308) fuel

/-- The double nearest to `digits · 10 ^ exponent`, rounded once. Powers of ten that cannot matter
are not computed. -/
def ofDecimal? (negative : Bool) (digits : Nat) (exponent : Int) : Option Binary64 :=
  if digits = 0 then some ⟨negative, 0, -1074⟩
  else if 400 < exponent then none
  else if exponent + (digits.log2 : Int) < -1200 then some ⟨negative, 0, -1074⟩
  else nearest? negative (digits * Nat.pow 10 exponent.toNat) (Nat.pow 10 (-exponent).toNat)

end Binary64

end CallContract
