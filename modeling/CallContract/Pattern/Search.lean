import CallContract.Pattern.Plan
import CallContract.Pattern.Reach

/-!
# Searching by a plan

Alternatives are tried in the order of preference, and after a failure the
search goes back to the latest choice. A search that goes back too often is
given up.
-/

set_option autoImplicit false

namespace CallContract.Pattern

structure Stand where
  at' : Nat
  starts : Array (Option Nat)
  ends : Array (Option Nat)

inductive Outcome where
  | found (s : Stand) (left : Nat)
  | failed (left : Nat)
  | exhausted

abbrev Goal := Stand → Nat → Outcome

def searchLimit : Nat := 1000000

def Outcome.orElse (o : Outcome) (other : Nat → Outcome) : Outcome :=
  match o with
  | .failed 0 => .exhausted
  | .failed (left + 1) => other left
  | o => o

def move (goal : Goal) (i : Nat) : Goal := fun s left => goal { s with at' := i } left

def goOnIf (holds : Bool) (goal : Goal) : Goal := fun s left =>
  if holds then goal s left else .failed left

/-- Repetitions from the `done`th on. A further one has to make progress if it could be empty. -/
def again (least : Nat) (most : Option Nat) (greedy mayBeEmpty : Bool) (one : Goal → Goal)
    (goal : Goal) : Nat → Nat → Goal
  | 0, _ => goal
  | fuel + 1, done => fun s left =>
    let next := again least most greedy mayBeEmpty one goal fuel (done + 1)
    if most = some done then goal s left
    else if done < least then one next s left
    else
      let further : Nat → Outcome := one (fun t left =>
        if mayBeEmpty && t.at' = s.at' then .failed left else next t left) s
      if greedy then (further left).orElse (goal s) else (goal s left).orElse further

def sameText (text : Array Char) (i j : Nat) : Nat → Bool
  | 0 => true
  | n + 1 =>
    match text[i]?, text[j]? with
    | some c, some d => c = d && sameText text (i + 1) (j + 1) n
    | _, _ => false

def setSlot (slots : Array (Option Nat)) (index : Option Nat) (i : Nat) : Array (Option Nat) :=
  match index with
  | some k => slots.setIfInBounds k (some i)
  | none => slots

/-- A look around that has to fail. Its failure is a way back to what follows. -/
def Outcome.refuse (o : Outcome) (goal : Nat → Outcome) : Outcome :=
  match o with
  | .found _ left => .failed left
  | o => o.orElse goal

def search (text : Array Char) : Plan → Goal → Goal
  | .empty, goal => goal
  | .unit e, goal => fun s left =>
    if e.matchesAt text s.at' then goal { s with at' := s.at' + e.minSize } left
    else .failed left
  | .first e p, goal => fun s left =>
    if e.matchesAt text s.at' then
      match search text p .found s searchLimit with
      | .found t _ => goal t left
      | o => o
    else .failed left
  | .anchor a, goal => fun s left => goOnIf (a.holds text s.at') goal s left
  | .seq p q, goal => search text p (search text q goal)
  | .alt p q, goal => fun s left =>
    (search text p goal s left).orElse (search text q goal s)
  | .group index p, goal => fun s left =>
    search text p (fun t left => goal { t with ends := setSlot t.ends index t.at' } left)
      { s with starts := setSlot s.starts index s.at' } left
  | .ahead true p, goal => fun s left => search text p (move goal s.at') s left
  | .ahead false p, goal => fun s left =>
    (search text p .found s left).refuse (goal s)
  | .back size true p, goal => fun s left =>
    if s.at' < size then .failed left
    else search text p (move goal s.at') { s with at' := s.at' - size } left
  | .back size false p, goal => fun s left =>
    if s.at' < size then (Outcome.failed left).orElse (goal s)
    else (search text p .found { s with at' := s.at' - size } left).refuse (goal s)
  | .times p least most greedy mayBeEmpty, goal => fun s left =>
    again least most greedy mayBeEmpty (search text p) goal
      (most.getD (least + text.size + 1) + 1) 0 s left
  | .copy index, goal => fun s left =>
    match (s.starts[index]?).join, (s.ends[index]?).join with
    | some i, some j =>
      if i ≤ j && sameText text i s.at' (j - i) then move goal (s.at' + (j - i)) s left
      else .failed left
    | _, _ => .failed left
  | .atomic p, goal => fun s left =>
    match search text p .found s left with
    | .found t left => goal t left
    | o => o
  | .branch test yes no, goal => fun s left =>
    match search text test .found s left with
    | .found t left => search text yes goal t left
    | o => o.orElse (search text no goal s)
  | .matched index, goal => fun s left =>
    goOnIf ((s.starts[index]?).join).isSome goal s left

def searchFrom (text : Array Char) (p : Plan) : List Nat → Nat → Outcome
  | [], left => .failed left
  | i :: rest, left =>
    let unset := Array.replicate p.groups none
    (search text p .found ⟨i, unset, unset⟩ left).orElse (searchFrom text p rest)

end CallContract.Pattern
