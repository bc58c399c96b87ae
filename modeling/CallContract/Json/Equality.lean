import CallContract.Json.Basic

/-!
# Two equalities of JSON values

`sameValue` compares numbers by their exact value, so `1` and `1.0` are the
same; schemas compare instances this way. `alike` tells integers from doubles.
Neither ever takes `true` for `1`. Objects are compared as lists in key order.
-/

set_option autoImplicit false

namespace CallContract.Json

mutual

def equalUpTo (same : Number → Number → Bool) : Json → Json → Bool
  | .null, .null => true
  | .bool a, .bool b => a == b
  | .num a, .num b => same a b
  | .str a, .str b => a == b
  | .arr a, .arr b => equalItemsUpTo same a b
  | .obj a, .obj b => equalEntriesUpTo same a b
  | _, _ => false

def equalItemsUpTo (same : Number → Number → Bool) : List Json → List Json → Bool
  | [], [] => true
  | x :: xs, y :: ys => equalUpTo same x y && equalItemsUpTo same xs ys
  | _, _ => false

def equalEntriesUpTo (same : Number → Number → Bool) :
    List (String × Json) → List (String × Json) → Bool
  | [], [] => true
  | (k, x) :: xs, (l, y) :: ys => k == l && equalUpTo same x y && equalEntriesUpTo same xs ys
  | _, _ => false

end

def sameValue (a b : Json) : Bool :=
  equalUpTo (fun m n => m.value == n.value) a b

def alike (a b : Json) : Bool :=
  equalUpTo Number.alike a b

def distinct : List Json → Bool
  | [] => true
  | x :: rest => rest.all (fun y => !sameValue x y) && distinct rest

end CallContract.Json
