import CallContract.Pattern.Parser
import CallContract.Pattern.Search

/-!
# Text patterns

A pattern matches a text if a match starts anywhere. Easy expressions are
matched in one pass, the others are searched for by a plan, and that search may
be given up.
-/

set_option autoImplicit false

namespace CallContract

inductive Pattern where
  | easy (e : Pattern.Expr)
  | planned (p : Pattern.Plan)

namespace Pattern

inductive Verdict where
  | found
  | absent
  | gaveUp
  deriving DecidableEq, Repr

def ofExpr? (e : Expr) : Option Pattern :=
  if e.isEasy then
    if e.fits then some (.easy e) else none
  else
    let p := Plan.ofExpr none true e
    if e.looksBackFixed && p.fits then some (.planned p) else none

def parse? (text : String) : Option Pattern :=
  ((standard? text.toList).bind Parser.expression?).bind ofExpr?

def verdict (p : Pattern) (s : String) : Verdict :=
  let text := s.toList.toArray
  let positions := List.range (text.size + 1)
  match p with
  | .easy e => if (e.reach text positions).isEmpty then .absent else .found
  | .planned p => match searchFrom text p positions searchLimit with
    | .found _ _ => .found
    | .failed _ => .absent
    | .exhausted => .gaveUp

end Pattern

end CallContract
