import Mathlib
import CallContract.Argument.Slot

/-!
# Where the slot for the rest may stand

Misplaced slots are looked for in a list first and then in the lists nested in
it, one after the other, at every depth and whatever their slots are for. One is
found if any of these lists is out of order.
-/

set_option autoImplicit false

namespace CallContract.Slot

variable {slots inner outer : List Slot} {typing : Typing} {role : Role}

inductive ListIn (slots : List Slot) : List Slot → Prop where
  | self : ListIn slots slots
  | inside {outer inner : List Slot} {typing : Typing} {role : Role} (h : ListIn slots outer)
      (hmem : .nested inner typing role ∈ outer) : ListIn slots inner

def OutOfOrder (slots : List Slot) : Prop :=
  1 < slots.countP isRest ∨
    ∃ i slot, slots[i]? = some slot ∧ slot.isRest = true ∧ i + 1 < slots.length

theorem ListIn.trans (h : ListIn slots outer) (h' : ListIn outer inner) : ListIn slots inner := by
  induction h' with
  | self => exact h
  | inside _ hmem ih => exact .inside ih hmem

theorem ListIn.nested (hmem : .nested outer typing role ∈ slots) (h : ListIn outer inner) :
    ListIn slots inner :=
  (ListIn.inside .self hmem).trans h

theorem misplaced_here_iff : misplacedHere? slots = none ↔ ¬OutOfOrder slots := by
  unfold misplacedHere? OutOfOrder
  by_cases hcount : 1 < slots.countP isRest
  · simp [hcount]
  rw [if_neg hcount, or_iff_right hcount]
  cases hfirst : slots.findIdx? isRest with
  | none =>
    rw [List.findIdx?_eq_none_iff] at hfirst
    refine iff_of_true rfl ?_
    rintro ⟨i, slot, hslot, hrest, -⟩
    rw [hfirst slot (List.mem_of_getElem? hslot)] at hrest
    cases hrest
  | some i =>
    obtain ⟨hi, hrest, hbefore⟩ := List.findIdx?_eq_some_iff_getElem.mp hfirst
    dsimp only
    split
    · rename_i hlast
      refine iff_of_true rfl ?_
      rintro ⟨j, slot, hslot, hrest', hj⟩
      -- a slot that is not the last would stand before the first for the rest
      obtain ⟨hj', rfl⟩ := List.getElem?_eq_some_iff.mp hslot
      exact hbefore j (by omega) hrest'
    · rename_i hlast
      refine iff_of_false (fun h => nomatch h) (not_not.mpr ?_)
      exact ⟨i, slots[i], List.getElem?_eq_getElem hi, hrest, by omega⟩

theorem misplaced_inside_iff : misplacedInside? slots = none ↔
    ∀ inner typing role, .nested inner typing role ∈ slots → misplaced? inner = none := by
  induction slots with
  | nil => simp [misplacedInside?]
  | cons slot more ih =>
    cases slot with
    | named name typing role => simp [misplacedInside?, ih]
    | nested list typing role =>
      rw [misplacedInside?, Option.or_eq_none_iff, ih]
      change misplaced? list = none ∧ _ ↔ _
      constructor
      · rintro ⟨hlist, hmore⟩ inner typing role hmem
        rcases List.mem_cons.mp hmem with he | hmem
        · cases he
          exact hlist
        · exact hmore inner typing role hmem
      · intro h
        exact ⟨h list typing role List.mem_cons_self,
          fun inner typing role hmem => h inner typing role (List.mem_cons_of_mem _ hmem)⟩

theorem misplaced_none : misplaced? slots = none ↔ misplacedHere? slots = none ∧
    ∀ inner typing role, .nested inner typing role ∈ slots → misplaced? inner = none := by
  rw [← misplaced_inside_iff]
  exact Option.or_eq_none_iff

theorem misplaced_inside_of_in_order
    (h : ∀ inner typing role, .nested inner typing role ∈ slots →
      ∀ list, ListIn inner list → ¬OutOfOrder list) : misplacedInside? slots = none := by
  induction slots using misplacedInside?.induct with
  | case1 => rw [misplacedInside?]
  | case2 name typing role rest ih =>
    rw [misplacedInside?]
    exact ih fun inner typing role hmem => h inner typing role (List.mem_cons_of_mem _ hmem)
  | case3 inner typing role rest ihin ih =>
    have hin := h inner typing role List.mem_cons_self
    rw [misplacedInside?, Option.or_eq_none_iff, Option.or_eq_none_iff]
    exact ⟨⟨misplaced_here_iff.mpr (hin inner .self),
      ihin fun _ _ _ hmem list hlist => hin list (.nested hmem hlist)⟩,
      ih fun inner typing role hmem => h inner typing role (List.mem_cons_of_mem _ hmem)⟩

/-- A misplaced slot is found if a list is out of order, at any depth. -/
theorem misplaced_iff :
    misplaced? slots = none ↔ ∀ list, ListIn slots list → ¬OutOfOrder list := by
  constructor
  · intro h list hlist
    have hplaced : misplaced? list = none := by
      induction hlist with
      | self => exact h
      | inside _ hmem ih => exact (misplaced_none.mp ih).2 _ _ _ hmem
    exact misplaced_here_iff.mp (misplaced_none.mp hplaced).1
  · intro h
    refine Option.or_eq_none_iff.mpr ⟨misplaced_here_iff.mpr (h slots .self), ?_⟩
    exact misplaced_inside_of_in_order fun _ _ _ hmem list hlist => h list (.nested hmem hlist)

end CallContract.Slot
