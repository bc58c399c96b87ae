/-!
# Numerals

Reading digits in a base up to sixteen. A numeral has at least one digit.
-/

set_option autoImplicit false

namespace CallContract.Numeral

def digit? (base : Nat) (c : Char) : Option Nat :=
  let value :=
    if c.isDigit then some (c.toNat - '0'.toNat)
    else if 'a' ≤ c ∧ c ≤ 'f' then some (c.toNat - 'a'.toNat + 10)
    else if 'A' ≤ c ∧ c ≤ 'F' then some (c.toNat - 'A'.toNat + 10)
    else none
  value.filter (· < base)

def continue? (base : Nat) : Nat → List Char → Option Nat
  | n, [] => some n
  | n, c :: cs => (digit? base c).bind fun d => continue? base (n * base + d) cs

def natural? (base : Nat) (cs : List Char) : Option Nat :=
  if cs.isEmpty then none else continue? base 0 cs

def scalar? (n : Nat) : Option Char :=
  if h : n.isValidChar then some (Char.ofNatAux n h) else none

end CallContract.Numeral
