import Mathlib
import CallContract.Json.Basic

/-!
# The places of a value

A value has as many places as nodes. What stands at a place of a place stands
at a place of the value.
-/

set_option autoImplicit false

namespace CallContract.Json

mutual

def places : Json → List Json
  | .arr items => .arr items :: placesOfItems items
  | .obj entries => .obj entries :: placesOfEntries entries
  | x => [x]

def placesOfItems : List Json → List Json
  | [] => []
  | x :: rest => x.places ++ placesOfItems rest

def placesOfEntries : List (String × Json) → List Json
  | [] => []
  | (_, x) :: rest => x.places ++ placesOfEntries rest

end

mutual

theorem length_places (x : Json) : x.places.length = x.nodes := by
  match x with
  | .arr items => rw [places, nodes, List.length_cons, length_places_of_items, Nat.add_comm]
  | .obj entries => rw [places, nodes, List.length_cons, length_places_of_entries, Nat.add_comm]
  | .null | .bool _ | .num _ | .str _ => rfl

theorem length_places_of_items (items : List Json) :
    (placesOfItems items).length = nodesOfItems items := by
  match items with
  | [] => rfl
  | x :: rest =>
    rw [placesOfItems, nodesOfItems, List.length_append, length_places, length_places_of_items]

theorem length_places_of_entries (entries : List (String × Json)) :
    (placesOfEntries entries).length = nodesOfEntries entries := by
  match entries with
  | [] => rfl
  | (_, x) :: rest =>
    rw [placesOfEntries, nodesOfEntries, List.length_append, length_places,
      length_places_of_entries]

end

theorem self_mem_places (x : Json) : x ∈ x.places := by
  cases x <;> simp [places]

theorem mem_places_of_items {items : List Json} {t : Json} :
    t ∈ placesOfItems items ↔ ∃ s ∈ items, t ∈ s.places := by
  induction items with
  | nil => simp [placesOfItems]
  | cons x rest ih => simp [placesOfItems, ih]

theorem mem_places_of_entries {entries : Entries} {t : Json} :
    t ∈ placesOfEntries entries ↔ ∃ e ∈ entries, t ∈ e.2.places := by
  induction entries with
  | nil => simp [placesOfEntries]
  | cons e rest ih => simp [placesOfEntries, ih]

theorem places_of_item {items : List Json} {s t : Json} (hs : s ∈ items) (ht : t ∈ s.places) :
    t ∈ (arr items).places :=
  List.mem_cons_of_mem _ (mem_places_of_items.mpr ⟨s, hs, ht⟩)

theorem places_of_entry {entries : Entries} {key : String} {s t : Json} (hs : (key, s) ∈ entries)
    (ht : t ∈ s.places) : t ∈ (obj entries).places :=
  List.mem_cons_of_mem _ (mem_places_of_entries.mpr ⟨(key, s), hs, ht⟩)

mutual

theorem places_trans {s t : Json} (ht : t ∈ s.places) (r : Json) (hs : s ∈ r.places) :
    t ∈ r.places := by
  match r with
  | .arr items =>
    rcases List.mem_cons.mp hs with rfl | hs
    · exact ht
    · exact List.mem_cons_of_mem _ (places_of_items_trans ht items hs)
  | .obj entries =>
    rcases List.mem_cons.mp hs with rfl | hs
    · exact ht
    · exact List.mem_cons_of_mem _ (places_of_entries_trans ht entries hs)
  | .null | .bool _ | .num _ | .str _ => exact List.mem_singleton.mp hs ▸ ht

theorem places_of_items_trans {s t : Json} (ht : t ∈ s.places) (items : List Json)
    (hs : s ∈ placesOfItems items) : t ∈ placesOfItems items := by
  match items with
  | [] => cases hs
  | x :: rest =>
    rw [placesOfItems] at hs ⊢
    rcases List.mem_append.mp hs with hs | hs
    · exact List.mem_append_left _ (places_trans ht x hs)
    · exact List.mem_append_right _ (places_of_items_trans ht rest hs)

theorem places_of_entries_trans {s t : Json} (ht : t ∈ s.places) (entries : List (String × Json))
    (hs : s ∈ placesOfEntries entries) : t ∈ placesOfEntries entries := by
  match entries with
  | [] => cases hs
  | (_, x) :: rest =>
    rw [placesOfEntries] at hs ⊢
    rcases List.mem_append.mp hs with hs | hs
    · exact List.mem_append_left _ (places_trans ht x hs)
    · exact List.mem_append_right _ (places_of_entries_trans ht rest hs)

end

end CallContract.Json
