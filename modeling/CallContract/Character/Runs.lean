/-!
# Tables of code points

A table cuts the code points, from 0 on, into runs that share a label. It is
written as words: the label of a run and then its length. What comes after the
last word belongs to the last run.
-/

set_option autoImplicit false

namespace CallContract

/-- Starts of runs in ascending order, each with what holds in the run. -/
structure Runs (α : Type) where
  starts : Array (Nat × α)

namespace Runs

variable {α : Type}

def ofWord (word : String) : String × Nat :=
  let digits := word.toList.dropWhile (!·.isDigit)
  (String.ofList (word.toList.takeWhile (!·.isDigit)),
    digits.foldl (fun n c => 10 * n + (c.toNat - '0'.toNat)) 0)

def addWord (label : String → α) (r : Nat × Array (Nat × α)) (word : String) :
    Nat × Array (Nat × α) :=
  let (name, length) := ofWord word
  (r.1 + length, r.2.push (r.1, label name))

def ofRows (label : String → α) (rows : List String) : Runs α :=
  ⟨((rows.flatMap (·.splitOn " ")).foldl (addWord label) (0, #[])).2⟩

def search (r : Runs α) (n low high : Nat) : Option α :=
  if low + 1 < high then
    let middle := (low + high) / 2
    match r.starts[middle]? with
    | some (start, _) => if start ≤ n then search r n middle high else search r n low middle
    | none => none
  else (r.starts[low]?).map (·.2)
termination_by high - low

def at? (r : Runs α) (n : Nat) : Option α := r.search n 0 r.starts.size

end Runs

end CallContract
