import CallContract.Pattern.Expression

/-!
# Positions that easy expressions reach

For an easy expression it is enough to know where a match can end, whatever it
starts from: sets of positions are carried from the start of the expression to
its end. Positions are numbers of characters from the start of the text, and
sets of them are lists in ascending order.
-/

set_option autoImplicit false

namespace CallContract.Pattern

def union : List Nat → List Nat → List Nat
  | [], ys => ys
  | xs, [] => xs
  | x :: xs, y :: ys =>
    if x < y then x :: union xs (y :: ys)
    else if y < x then y :: union (x :: xs) ys
    else x :: union xs ys
termination_by xs ys => xs.length + ys.length

def isWordAt (text : Array Char) (i : Nat) : Bool :=
  match text[i]? with
  | some c => CharSet.word.has c
  | none => false

def Anchor.holds (text : Array Char) (a : Anchor) (i : Nat) : Bool :=
  let before := 0 < i && isWordAt text (i - 1)
  let after := isWordAt text i
  match a with
  | .textStart => i == 0
  | .textEnd => i == text.size
  | .lineStart => i == 0 || text[i - 1]? == some '\n'
  | .lineEnd => i == text.size || text[i]? == some '\n'
  | .wordEdge => before != after
  | .noWordEdge => before == after
  | .wordStart => !before && after
  | .wordEnd => before && !after

def stepOver (text : Array Char) (s : CharSet) (front : List Nat) : List Nat :=
  front.filterMap fun i => match text[i]? with
    | some c => if s.has c then some (i + 1) else none
    | none => none

def exactly (step : List Nat → List Nat) : Nat → List Nat → List Nat
  | 0, front => front
  | n + 1, front =>
    let next := step front
    if next.isEmpty || next == front then next else exactly step n next

def marked (step : List Nat → List Nat) : Nat → List Nat → Array Bool → Array Bool
  | 0, _, seen => seen
  | n + 1, front, seen =>
    let fresh := (step front).filter fun i => !seen.getD i true
    if fresh.isEmpty then seen
    else marked step n fresh (fresh.foldl (fun seen i => seen.setIfInBounds i true) seen)

def atMost (step : List Nat → List Nat) (last n : Nat) (front : List Nat) : List Nat :=
  let start := front.foldl (fun seen i => seen.setIfInBounds i true)
    (Array.replicate (last + 1) false)
  let seen := marked step n front start
  (List.range (last + 1)).filter (seen.getD · false)

namespace Expr

/-- Where matches of an easy expression end that start at one of some positions. More steps than
characters reach nothing new. -/
def reach (text : Array Char) : Expr → List Nat → List Nat
  | .empty, front => front
  | .one s, front => stepOver text s front
  | .anchor a, front => front.filter (a.holds text)
  | .seq a b, front => match reach text a front with
    | [] => []
    | middle => reach text b middle
  | .alt a b, front => union (reach text a front) (reach text b front)
  | .group _ e, front => reach text e front
  | .times e least most _, front =>
    match exactly (reach text e) least front with
    | [] => []
    | front =>
      let more := match most with
        | some n => min (n - least) (text.size + 1)
        | none => text.size + 1
      if more = 0 then front else atMost (reach text e) text.size more front
  | _, _ => []

def matchesAt (text : Array Char) (e : Expr) (i : Nat) : Bool := !(e.reach text [i]).isEmpty

end Expr

end CallContract.Pattern
