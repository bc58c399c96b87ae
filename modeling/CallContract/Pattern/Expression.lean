import CallContract.Pattern.CharSet

/-!
# Expressions

An expression tells which parts of a text match. Most are easy: whether they
match between two positions depends on these positions alone. The others look
around, refer to what a group has matched, or commit to their first match.
-/

set_option autoImplicit false

namespace CallContract.Pattern

inductive Anchor where
  | textStart
  | textEnd
  | lineStart
  | lineEnd
  | wordEdge
  | noWordEdge
  | wordStart
  | wordEnd
  deriving DecidableEq, Repr, Inhabited

inductive Expr where
  | empty
  | one (set : CharSet)
  | anchor (a : Anchor)
  | seq (a b : Expr)
  | alt (a b : Expr)
  /-- A group, with its number if a reference leads to it. -/
  | group (index : Option Nat) (e : Expr)
  | look (ahead wanted : Bool) (e : Expr)
  | times (e : Expr) (least : Nat) (most : Option Nat) (greedy : Bool)
  | copy (index : Nat)
  | atomic (e : Expr)
  /-- After `test` comes `yes`; where `test` does not match comes `no`. -/
  | branch (test yes no : Expr)
  | matched (index : Nat)
  deriving Inhabited

namespace Expr

def isEmpty : Expr → Bool
  | .empty => true
  | _ => false

/-- Rows and choices are kept apart from a row or a choice that they end. -/
def whole : Expr → Expr
  | .seq a b => .group none (.seq a b)
  | .alt a b => .group none (.alt a b)
  | e => e

def ofRow : List Expr → Expr
  | [] => .empty
  | [e] => e
  | [d, e] => .seq d (whole e)
  | e :: es => .seq e (ofRow es)

def ofChoice : List Expr → Expr
  | [] => .empty
  | [e] => e
  | [d, e] => .alt d (whole e)
  | e :: es => .alt e (ofChoice es)

def alternatives : Expr → List Expr
  | .alt a b => a :: alternatives b
  | e => [e]

def minSize : Expr → Nat
  | .one _ => 1
  | .seq a b => a.minSize + b.minSize
  | .alt a b => min a.minSize b.minSize
  | .group _ e => e.minSize
  | .times e least _ _ => e.minSize * least
  | .atomic e => e.minSize
  | .branch test yes no => test.minSize + min yes.minSize no.minSize
  | _ => 0

def isFixed : Expr → Bool
  | .seq a b => a.isFixed && b.isFixed
  | .alt a b => a.isFixed && b.isFixed && a.minSize == b.minSize
  | .group _ e => e.isFixed
  | .times e least most _ => e.isFixed && most == some least
  | .copy _ => false
  | .atomic e => e.isFixed
  | .branch test yes no =>
    test.isFixed && yes.isFixed && no.isFixed && test.minSize + yes.minSize == no.minSize
  | _ => true

def isEasy : Expr → Bool
  | .empty => true
  | .one _ => true
  | .anchor a => [.textStart, .textEnd, .lineStart, .lineEnd].contains a
  | .seq a b => a.isEasy && b.isEasy
  | .alt a b => a.isEasy && b.isEasy
  | .group index e => index.isNone && e.isEasy
  | .times e _ _ _ => e.isEasy
  | _ => false

/-- A look back is one for each alternative, where these differ in size. -/
def lookBack (wanted : Bool) (e : Expr) : Expr :=
  if e.isFixed then .look false wanted e
  else
    let looks := e.alternatives.map (.look false wanted)
    whole (if wanted then ofChoice looks else ofRow looks)

/-- The expression without numbers of groups that no reference leads to, and with looks back taken
apart. -/
def settle (used : List Nat) : Expr → Expr
  | .seq a b => .seq (settle used a) (settle used b)
  | .alt a b => .alt (settle used a) (settle used b)
  | .group index e => .group (index.filter used.contains) (settle used e)
  | .look true wanted e => .look true wanted (settle used e)
  | .look false wanted e => lookBack wanted (settle used e)
  | .times e least most greedy => .times (settle used e) least most greedy
  | .atomic e => .atomic (settle used e)
  | .branch test yes no => .branch (settle used test) (settle used yes) (settle used no)
  | e => e

def looksBackFixed : Expr → Bool
  | .seq a b => a.looksBackFixed && b.looksBackFixed
  | .alt a b => a.looksBackFixed && b.looksBackFixed
  | .group _ e => e.looksBackFixed
  | .look ahead _ e => e.looksBackFixed && (ahead || e.isFixed)
  | .times e _ _ _ => e.looksBackFixed
  | .atomic e => e.looksBackFixed
  | .branch test yes no => test.looksBackFixed && yes.looksBackFixed && no.looksBackFixed
  | _ => true

end Expr

end CallContract.Pattern
