import CallContract.Json.Basic
import CallContract.Text.Numeral

/-!
# What a plain scalar stands for

A plain scalar without a type given to it is null, a boolean, an integer or a
float if it is spelled like one, and text otherwise. A decimal integer with a
leading zero is text. `Scalar.wide` is an integer between 64 and 128 bits,
which no document may hold as a value; a longer one is read as a float.
-/

set_option autoImplicit false

namespace CallContract.Yaml

inductive Scalar where
  | null
  | bool (b : Bool)
  | int (i : Int)
  | wide (i : Int)
  | float (x : Binary64)
  | infinite (negative : Bool)
  | nan
  | str (s : String)
  deriving DecidableEq, Repr

namespace Scalar

def same : Scalar → Scalar → Bool
  | .float x, .float y => x.value == y.value
  | a, b => a == b

def isNull (text : String) : Bool :=
  text ∈ ["", "null", "Null", "NULL", "~"]

def boolean? (text : String) : Option Bool :=
  if text ∈ ["true", "True", "TRUE"] then some true
  else if text ∈ ["false", "False", "FALSE"] then some false
  else none

def sign : List Char → Option Char × List Char
  | '+' :: cs => (some '+', cs)
  | '-' :: cs => (some '-', cs)
  | cs => (none, cs)

def isPadded : List Char → Bool
  | '0' :: d :: cs => (d :: cs).all Char.isDigit
  | _ => false

def magnitude? : List Char → Option Nat
  | '0' :: 'x' :: cs => Numeral.natural? 16 cs
  | '0' :: 'o' :: cs => Numeral.natural? 8 cs
  | '0' :: 'b' :: cs => Numeral.natural? 2 cs
  | cs => if isPadded cs then none else Numeral.natural? 10 cs

def integer? (text : List Char) : Option Int :=
  match sign text with
  | (some '-', cs) => (magnitude? cs).map fun n => -(n : Int)
  | (_, cs) => (magnitude? cs).map fun n => (n : Int)

def exponent? : List Char → Option Int
  | [] => some 0
  | mark :: cs =>
    if mark = 'e' || mark = 'E' then
      match sign cs with
      | (some '-', ds) => (Numeral.natural? 10 ds).map fun n => -(n : Int)
      | (_, ds) => (Numeral.natural? 10 ds).map fun n => (n : Int)
    else none

def decimal? (cs : List Char) : Option Decimal :=
  let whole := cs.takeWhile Char.isDigit
  let (places, rest) := match cs.dropWhile Char.isDigit with
    | '.' :: r => (r.takeWhile Char.isDigit, r.dropWhile Char.isDigit)
    | r => ([], r)
  match Numeral.natural? 10 (whole ++ places), exponent? rest with
  | some digits, some e => some ⟨digits, e - places.length⟩
  | _, _ => none

def finite? (text : List Char) : Option Binary64 :=
  let (s, cs) := sign text
  if isPadded cs then none
  else (decimal? cs).bind fun d => Binary64.ofDecimal? (s == some '-') d.digits d.exponent

def special? (text : String) : Option Scalar :=
  if text ∈ [".inf", ".Inf", ".INF", "+.inf", "+.Inf", "+.INF"] then some (.infinite false)
  else if text ∈ ["-.inf", "-.Inf", "-.INF"] then some (.infinite true)
  else if text ∈ [".nan", ".NaN", ".NAN"] then some .nan
  else none

def ofInteger? (i : Int) : Option Scalar :=
  if -0x8000000000000000 ≤ i ∧ i < 0x10000000000000000 then some (.int i)
  else if -(Nat.pow 2 127 : Int) ≤ i ∧ i < (Nat.pow 2 128 : Int) then some (.wide i)
  else none

def ofPlain (text : String) : Scalar :=
  if isNull text then .null
  else match boolean? text with
    | some b => .bool b
    | none =>
      match (integer? text.toList).bind ofInteger? with
      | some x => x
      | none => match special? text, finite? text.toList with
        | some x, _ => x
        | none, some x => .float x
        | none, none => .str text

end Scalar

end CallContract.Yaml
