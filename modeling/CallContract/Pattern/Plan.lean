import CallContract.Pattern.Size

/-!
# Plans of a search

A plan says how an expression that is not easy is searched for. It cuts the
expression into units, which are matched at once, and steps between which the
search may go back. The easy parts at both ends of a row are units if they are
of one size; where nothing that follows could ask for another match, any easy
part is one.
-/

set_option autoImplicit false

namespace CallContract.Pattern

inductive Plan where
  | empty
  /-- An easy expression that is of one size, or that is only asked whether it matches. -/
  | unit (e : Expr)
  /-- The first match of an easy expression, by the plan for it. -/
  | first (e : Expr) (p : Plan)
  | anchor (a : Anchor)
  | seq (p q : Plan)
  | alt (p q : Plan)
  | group (index : Option Nat) (p : Plan)
  | ahead (wanted : Bool) (p : Plan)
  | back (size : Nat) (wanted : Bool) (p : Plan)
  | times (p : Plan) (least : Nat) (most : Option Nat) (greedy mayBeEmpty : Bool)
  | copy (index : Nat)
  | atomic (p : Plan)
  | branch (test yes no : Plan)
  | matched (index : Nat)
  deriving Inhabited

namespace Plan

def stepwise (e : Expr) : Plan :=
  if e.isFixed then .unit e
  else match e with
    | .seq a b => .seq (stepwise a) (stepwise b)
    | .alt a b => .alt (stepwise a) (stepwise b)
    | .group _ e => .group none (stepwise e)
    | .times e least most greedy =>
      .times (stepwise e) least most greedy (e.minSize = 0 && most.isNone)
    | _ => .empty

def ofEasy (e : Expr) : Plan := if e.isFixed then .unit e else .first e (stepwise e)

def isRow : Expr → Bool
  | .seq _ _ => true
  | _ => false

/-- The plan for an expression. `strict` asks for every match and not just the first one. `place`
is nothing for an expression on its own, and for the rest of a row it tells whether all before it
were units. -/
def ofExpr (place : Option Bool) (strict : Bool) (e : Expr) : Plan :=
  let inRow := place.isSome || isRow e
  if e.isEasy && (!strict || (inRow && e.isFixed)) then ofEasy e
  else
    let strict' := strict || place.isSome
    match e with
    | .empty => .empty
    | .one s => .unit (.one s)
    | .anchor a => .anchor a
    | .seq a b =>
      if place.getD true && a.isEasy && a.isFixed then
        .seq (.unit a) (ofExpr (some true) strict b)
      else .seq (ofExpr none true a) (ofExpr (some false) strict b)
    | .alt a b => .alt (ofExpr none strict' a) (ofExpr none strict' b)
    | .group index e => .group index (ofExpr none strict' e)
    | .look true wanted e => .ahead wanted (if e.isEasy then .unit e else ofExpr none false e)
    | .look false wanted e => .back e.minSize wanted (ofExpr none false e)
    | .times e least most greedy =>
      let once := least = 0 && most = some 1
      .times (ofExpr none (strict' || !once) e) least most greedy (e.minSize = 0 && most.isNone)
    | .copy index => .copy index
    | .atomic e => .atomic (ofExpr none false e)
    | .branch test yes no =>
      .branch (ofExpr none strict' test) (ofExpr none strict' yes) (ofExpr none strict' no)
    | .matched index => .matched index

def fits : Plan → Bool
  | .unit e => e.fits
  | .first e _ => e.fits
  | .seq p q => p.fits && q.fits
  | .alt p q => p.fits && q.fits
  | .group _ p => p.fits
  | .ahead _ p => p.fits
  | .back _ _ p => p.fits
  | .times p _ _ _ _ => p.fits
  | .atomic p => p.fits
  | .branch test yes no => test.fits && yes.fits && no.fits
  | _ => true

def groups : Plan → Nat
  | .seq p q => max p.groups q.groups
  | .alt p q => max p.groups q.groups
  | .group index p => max ((index.map (· + 1)).getD 0) p.groups
  | .ahead _ p => p.groups
  | .back _ _ p => p.groups
  | .times p _ _ _ _ => p.groups
  | .atomic p => p.groups
  | .branch test yes no => max test.groups (max yes.groups no.groups)
  | _ => 0

end Plan

end CallContract.Pattern
