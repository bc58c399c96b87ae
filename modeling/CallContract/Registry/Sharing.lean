import CallContract.Registry.Basic

/-!
# Registries behind handles

A handle names a registry; a clone names the same registry as the handle it was
made from. Handles are numbered in the order in which they were made, and
handle 0 is there from the start. An operation on a handle that was never made
changes nothing.
-/

set_option autoImplicit false

namespace CallContract

structure Registries where
  stores : List Registry
  handles : List Nat
  deriving DecidableEq, Repr

namespace Registries

def start : Registries := ⟨[.empty], [0]⟩

def behind (rs : Registries) (handle : Nat) : Registry :=
  ((rs.handles[handle]?).bind (rs.stores[·]?)).getD .empty

def change (rs : Registries) (handle : Nat) (f : Registry → Registry) : Registries :=
  match rs.handles[handle]? with
  | some i => { rs with stores := rs.stores.modify i f }
  | none => rs

inductive Operation where
  | store (handle : Nat) (type : TypeToken) (schema : Schema)
  | lookup (handle : Nat) (type : TypeToken)
  | remove (handle : Nat) (type : TypeToken)
  | size (handle : Nat)
  | isEmpty (handle : Nat)
  | clone (handle : Nat)
  | new

inductive Answer where
  | bound (schema : Option Schema)
  | size (n : Nat)
  | isEmpty (yes : Bool)
  /-- The number of the new handle. -/
  | handle (number : Nat)
  deriving DecidableEq

def step (rs : Registries) : Operation → Answer × Registries
  | .store h t s => (.bound ((rs.behind h).lookup t), rs.change h (·.insert t s))
  | .lookup h t => (.bound ((rs.behind h).lookup t), rs)
  | .remove h t => (.bound ((rs.behind h).lookup t), rs.change h (·.erase t))
  | .size h => (.size (rs.behind h).size, rs)
  | .isEmpty h => (.isEmpty (rs.behind h).isEmpty, rs)
  | .clone h => match rs.handles[h]? with
    | some i => (.handle rs.handles.length, { rs with handles := rs.handles ++ [i] })
    | none => (.handle h, rs)
  | .new => (.handle rs.handles.length,
      ⟨rs.stores ++ [.empty], rs.handles ++ [rs.stores.length]⟩)

def run (rs : Registries) : List Operation → List Answer × Registries
  | [] => ([], rs)
  | op :: rest =>
    let (answer, rs) := rs.step op
    let (answers, rs) := run rs rest
    (answer :: answers, rs)

end Registries

end CallContract
