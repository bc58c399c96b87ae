import CallContract.Pattern.Expression

/-!
# Sizes of expressions

An easy part of an expression is matched by an automaton over bytes. Its size is
estimated from its states: 32 bytes for each byte of a character, one copy for
each time that something is repeated. An expression with a part too large for
an automaton is no pattern.
-/

set_option autoImplicit false

namespace CallContract

def Trait.cost : Trait → Nat
  | .ascii => 72
  | .any => 900
  | .categories [.decimalNumber] => 4200
  | .property p => if p.base.length < 4 then 60 * p.turned.starts.size + 72 else 45000
  | .script _ => 2500
  | .usedIn _ => 2500
  | _ => 45000

namespace CharSet

def asciiRanges? : CharSet → Option Nat
  | .empty => some 0
  | .range _ high => if high < 128 then some 1 else none
  | .union a b => return (← a.asciiRanges?) + (← b.asciiRanges?)
  | .inter a b => a.asciiRanges? <|> b.asciiRanges?
  | .folded a => return 2 * (← a.asciiRanges?)
  | _ => none

def cost (s : CharSet) : Nat :=
  match s.asciiRanges? with
  | some n => match s with
    | .range low high => if low = high then 32 else 72
    | _ => 64 + 8 * n
  | none => match s with
    | .empty => 64
    | .range low high =>
      if low = high then (if high < 0x800 then 64 else if high < 0x10000 then 96 else 128) else 300
    | .trait t => t.cost
    | .word => 55000
    | .union a b => a.cost + b.cost
    | .inter a b => max a.cost b.cost
    | .compl a => match a.asciiRanges? with
      | some n => 36 * (n + 1) + 928
      | none => a.cost + 900
    | .folded a => 2 * a.cost

end CharSet

namespace Pattern.Expr

def cost? : Expr → Option Nat
  | .empty => some 32
  | .one set => some set.cost
  | .anchor _ => some 32
  | .seq a b => return (← a.cost?) + (← b.cost?)
  | .alt a b => return (← a.cost?) + (← b.cost?) + 36
  | .group _ e => e.cost?
  | .times e least most _ => do
    let one ← e.cost?
    let greatest := most.getD least
    if greatest < least || UInt32.size ≤ greatest then none
    else return one * (if most.isNone then max 1 least else least)
      + (one + 40) * (greatest - least) + 40
  | _ => none

def sizeLimit : Nat := 10 * 1024 * 1024

def fits (e : Expr) : Bool :=
  match e.cost? with
  | some n => n ≤ sizeLimit
  | none => false

end Pattern.Expr

end CallContract
