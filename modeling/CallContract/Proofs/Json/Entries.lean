import Mathlib
import CallContract.Json.Basic

/-!
# Looking entries up

In a list without repeated keys, looking a key up finds exactly the entry that
is there.
-/

set_option autoImplicit false

namespace CallContract.Entries

variable {α β : Type}

theorem mem_of_lookup {key : String} {x : α} {named : List (String × α)}
    (h : named.lookup key = some x) : (key, x) ∈ named := by
  obtain ⟨front, back, rfl, -⟩ := List.lookup_eq_some_iff.mp h
  simp

theorem lookup_of_mem {key : String} {x : α} {named : List (String × α)}
    (hn : (named.map (·.1)).Nodup) (h : (key, x) ∈ named) : named.lookup key = some x := by
  induction named with
  | nil => cases h
  | cons entry rest ih =>
    obtain ⟨k, y⟩ := entry
    rw [List.map_cons, List.nodup_cons] at hn
    rcases List.mem_cons.mp h with he | hr
    · cases he
      exact List.lookup_cons_self
    · have hk : key ≠ k := by
        rintro rfl
        exact hn.1 (List.mem_map.mpr ⟨(key, x), hr, rfl⟩)
      rw [List.lookup_cons, beq_false_of_ne hk]
      exact ih hn.2 hr

theorem lookup_map_snd (f : α → β) (key : String) (named : List (String × α)) :
    (named.map fun e => (e.1, f e.2)).lookup key = (named.lookup key).map f := by
  induction named with
  | nil => rfl
  | cons entry rest ih =>
    obtain ⟨k, x⟩ := entry
    rw [List.map_cons, List.lookup_cons, List.lookup_cons, ih]
    cases key == k <;> rfl

theorem all_congr_mem {p q : α → Bool} {xs : List α} (h : ∀ x ∈ xs, p x = q x) :
    xs.all p = xs.all q := by
  induction xs with
  | nil => rfl
  | cons x xs ih =>
    rw [List.all_cons, List.all_cons, h x (by simp), ih fun y hy => h y (by simp [hy])]

theorem any_congr_mem {p q : α → Bool} {xs : List α} (h : ∀ x ∈ xs, p x = q x) :
    xs.any p = xs.any q := by
  induction xs with
  | nil => rfl
  | cons x xs ih =>
    rw [List.any_cons, List.any_cons, h x (by simp), ih fun y hy => h y (by simp [hy])]

end CallContract.Entries
