import CallContract.Json.Number

/-!
# JSON values

The entries of an object are a list in key order without repeated keys. The
type does not enforce the order: `insertEntry` keeps it, and every object read
from text is built with `insertEntry`, so a repeated key keeps its last value.
Keys are ordered by code points, which is the order of their UTF-8 bytes.
-/

set_option autoImplicit false

namespace CallContract

inductive Json where
  | null
  | bool (b : Bool)
  | num (n : Number)
  | str (s : String)
  | arr (items : List Json)
  | obj (entries : List (String × Json))
  deriving Repr, Inhabited

abbrev Entries := List (String × Json)

namespace Json

mutual

def decEq : (a b : Json) → Decidable (a = b)
  | .null, .null => isTrue rfl
  | .bool a, .bool b => if h : a = b then isTrue (h ▸ rfl) else isFalse (by simpa using h)
  | .num a, .num b => if h : a = b then isTrue (h ▸ rfl) else isFalse (by simpa using h)
  | .str a, .str b => if h : a = b then isTrue (h ▸ rfl) else isFalse (by simpa using h)
  | .arr a, .arr b => match decEqItems a b with
    | isTrue h => isTrue (h ▸ rfl)
    | isFalse h => isFalse (by simpa using h)
  | .obj a, .obj b => match decEqEntries a b with
    | isTrue h => isTrue (h ▸ rfl)
    | isFalse h => isFalse (by simpa using h)
  | .null, .bool _ | .null, .num _ | .null, .str _ | .null, .arr _ | .null, .obj _
  | .bool _, .null | .bool _, .num _ | .bool _, .str _ | .bool _, .arr _ | .bool _, .obj _
  | .num _, .null | .num _, .bool _ | .num _, .str _ | .num _, .arr _ | .num _, .obj _
  | .str _, .null | .str _, .bool _ | .str _, .num _ | .str _, .arr _ | .str _, .obj _
  | .arr _, .null | .arr _, .bool _ | .arr _, .num _ | .arr _, .str _ | .arr _, .obj _
  | .obj _, .null | .obj _, .bool _ | .obj _, .num _ | .obj _, .str _ | .obj _, .arr _ =>
    isFalse (by simp)

def decEqItems : (a b : List Json) → Decidable (a = b)
  | [], [] => isTrue rfl
  | [], _ :: _ => isFalse (by simp)
  | _ :: _, [] => isFalse (by simp)
  | x :: xs, y :: ys => match decEq x y, decEqItems xs ys with
    | isTrue h, isTrue hs => isTrue (h ▸ hs ▸ rfl)
    | isFalse h, _ => isFalse (by simp [h])
    | _, isFalse hs => isFalse (by simp [hs])

def decEqEntries : (a b : List (String × Json)) → Decidable (a = b)
  | [], [] => isTrue rfl
  | [], _ :: _ => isFalse (by simp)
  | _ :: _, [] => isFalse (by simp)
  | (k, x) :: xs, (l, y) :: ys => match decEq x y, decEqEntries xs ys with
    | isTrue h, isTrue hs =>
      if hk : k = l then isTrue (h ▸ hs ▸ hk ▸ rfl) else isFalse (by simp [hk])
    | isFalse h, _ => isFalse (by simp [h])
    | _, isFalse hs => isFalse (by simp [hs])

end

instance : DecidableEq Json := decEq

def insertEntry (key : String) (value : Json) : Entries → Entries
  | [] => [(key, value)]
  | (k, v) :: rest =>
    if key < k then (key, value) :: (k, v) :: rest
    else if key = k then (key, value) :: rest
    else (k, v) :: insertEntry key value rest

def ofEntries (entries : Entries) : Json :=
  .obj (entries.foldl (fun es (k, v) => insertEntry k v es) [])

def field? : Json → String → Option Json
  | .obj entries, key => entries.lookup key
  | _, _ => none

def natural (n : Nat) : Json := .num (.int n)

mutual

def nodes : Json → Nat
  | .arr items => 1 + nodesOfItems items
  | .obj entries => 1 + nodesOfEntries entries
  | _ => 1

def nodesOfItems : List Json → Nat
  | [] => 0
  | x :: rest => x.nodes + nodesOfItems rest

def nodesOfEntries : List (String × Json) → Nat
  | [] => 0
  | (_, x) :: rest => x.nodes + nodesOfEntries rest

end

mutual

def depth : Json → Nat
  | .arr items => depthOfItems items
  | .obj entries => depthOfEntries entries
  | _ => 0

def depthOfItems : List Json → Nat
  | [] => 0
  | x :: rest => max (x.depth + 1) (depthOfItems rest)

def depthOfEntries : List (String × Json) → Nat
  | [] => 0
  | (_, x) :: rest => max (x.depth + 1) (depthOfEntries rest)

end

end Json

end CallContract
