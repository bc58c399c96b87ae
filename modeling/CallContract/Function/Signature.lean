import CallContract.Function.Error

/-!
# Signatures

A signature publishes the output schema of a function and, for each number of
positional elements, the input schema. A function with one arity has it alone;
otherwise the arities stand in a table in ascending order, and looking one up
is a binary search.
-/

set_option autoImplicit false

namespace CallContract

inductive Dispatch where
  | single (arity : Nat) (input : Schema)
  | table (rows : Array (Nat × Schema))
  deriving DecidableEq, Repr

structure Signature where
  output : Schema
  dispatch : Dispatch
  deriving DecidableEq, Repr

namespace Signature

def arityOf (input : Schema) : Except DefinitionError Nat :=
  match Schema.tupleLength? input with
  | some n => .ok n
  | none => .error (.schema (.notATuple input))

def keyed : List Schema → Except DefinitionError (List (Nat × Schema))
  | [] => .ok []
  | input :: rest => do
    let n ← arityOf input
    let rows ← keyed rest
    .ok ((n, input) :: rows)

def repeated? : List (Nat × Schema) → Option Nat
  | (m, _) :: (n, s) :: rest => if m = n then some m else repeated? ((n, s) :: rest)
  | _ => none

def compose (output : Schema) (inputs : List Schema) : Except DefinitionError Signature := do
  let rows ← keyed inputs
  match rows with
  | [] => .error .noArities
  | [(n, input)] => .ok ⟨output, .single n input⟩
  | rows =>
    let sorted := rows.mergeSort fun a b => a.1 ≤ b.1
    match repeated? sorted with
    | some n => .error (.duplicateArity n)
    | none => .ok ⟨output, .table sorted.toArray⟩

def isSingle (s : Signature) : Bool :=
  match s.dispatch with
  | .single _ _ => true
  | .table _ => false

def entries (s : Signature) : List (Nat × Schema) :=
  match s.dispatch with
  | .single n input => [(n, input)]
  | .table rows => rows.toList

def arities (s : Signature) : List Nat := s.entries.map (·.1)

def search (rows : Array (Nat × Schema)) (key low high : Nat) : Option Schema :=
  if _ : low < high then
    let middle := low + (high - low) / 2
    match rows[middle]? with
    | none => none
    | some (n, input) =>
      if n = key then some input
      else if n < key then search rows key (middle + 1) high
      else search rows key low middle
  else none
termination_by high - low

def input (s : Signature) (arity : Nat) : Option Schema :=
  match s.dispatch with
  | .single n input => if n = arity then some input else none
  | .table rows => search rows arity 0 rows.size

end Signature

end CallContract
