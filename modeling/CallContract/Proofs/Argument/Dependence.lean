import CallContract.Proofs.Argument.Form
import CallContract.Proofs.Argument.Placement

/-!
# What a form depends on

A form is made from its slots and from what the types on its spine are bound to:
those of its own slots and, where a nested list stands for the rest without a
schema of its own, those on the spine of that list. Registries that agree on these
types give one form or one error. A nested list that is not on the spine is looked
at for misplaced slots only, so any other list that is in order can stand for it.
-/

set_option autoImplicit false

namespace CallContract

namespace Slot

/-- A type is looked up for the form of a list: it stands on a slot of the list, or it is looked up
for a nested list that shapes the rest because the slot has no schema of its own. -/
inductive Consulted (types : Registry) : List Slot → TypeToken → Prop where
  | here {slots : List Slot} {slot : Slot} {t : TypeToken} (hmem : slot ∈ slots)
      (ht : slot.typing = .type t) : Consulted types slots t
  | inside {slots inner : List Slot} {typing : Typing} {t : TypeToken}
      (hmem : .nested inner typing .rest ∈ slots)
      (hopen : schema? types (.nested inner typing .rest) = some Schema.any)
      (h : Consulted types inner t) : Consulted types slots t

def InOrder (slots : List Slot) : Prop := ∀ list, ListIn slots list → ¬OutOfOrder list

/-- One nested list stands for another, somewhere in a list. Both are in order, and they do not
shape the rest: their slot is regular or has a schema of its own. -/
inductive Exchanged (types : Registry) : List Slot → List Slot → Prop where
  | list {inner inner' : List Slot} {typing : Typing} {role : Role} (more : List Slot)
      (h : InOrder inner) (h' : InOrder inner')
      (hshaped : role = .regular ∨
        schema? types (.nested inner typing role) ≠ some Schema.any) :
      Exchanged types (.nested inner typing role :: more) (.nested inner' typing role :: more)
  | inside {inner inner' : List Slot} (typing : Typing) (role : Role) (more : List Slot)
      (h : Exchanged types inner inner') :
      Exchanged types (.nested inner typing role :: more) (.nested inner' typing role :: more)
  | later {more more' : List Slot} (slot : Slot) (h : Exchanged types more more') :
      Exchanged types (slot :: more) (slot :: more')

variable {types types' : Registry} {slots slots' : List Slot} {slot : Slot}

theorem Consulted.cons {t : TypeToken} {more : List Slot} (h : Consulted types more t) :
    Consulted types (slot :: more) t := by
  cases h with
  | here hmem ht => exact .here (List.mem_cons_of_mem _ hmem) ht
  | inside hmem hopen h => exact .inside (List.mem_cons_of_mem _ hmem) hopen h

theorem misplaced_here_congr (h : slots.map isRest = slots'.map isRest) :
    misplacedHere? slots = misplacedHere? slots' := by
  have hcount (slots : List Slot) : slots.countP isRest = (slots.map isRest).countP id := by
    rw [List.countP_map]
    rfl
  have hfirst (slots : List Slot) : slots.findIdx? isRest = (slots.map isRest).findIdx? id := by
    rw [List.findIdx?_map]
    rfl
  have hlength : slots.length = slots'.length := by
    rw [← List.length_map (f := isRest), h, List.length_map]
  rw [misplacedHere?, misplacedHere?, hcount, hcount, hfirst, hfirst, h, hlength]

theorem Exchanged.roles (h : Exchanged types slots slots') :
    slots.map isRest = slots'.map isRest := by
  induction h with
  | list | inside => rfl
  | later slot _ ih => rw [List.map_cons, List.map_cons, ih]

theorem misplaced_inside_nested (inner : List Slot) (typing : Typing) (role : Role)
    (more : List Slot) : misplacedInside? (.nested inner typing role :: more) =
      (misplaced? inner).or (misplacedInside? more) := by
  rw [misplacedInside?, misplaced?]

theorem Exchanged.misplaced_inside (h : Exchanged types slots slots') :
    misplacedInside? slots = misplacedInside? slots' := by
  induction h with
  | list more h h' _ =>
    rw [misplaced_inside_nested, misplaced_inside_nested, misplaced_iff.mpr h, misplaced_iff.mpr h']
  | inside typing role more h ih =>
    rw [misplaced_inside_nested, misplaced_inside_nested, misplaced?, misplaced?, ih,
      misplaced_here_congr h.roles]
  | later slot _ ih =>
    cases slot with
    | named name typing role => rw [misplacedInside?, misplacedInside?, ih]
    | nested inner typing role => rw [misplaced_inside_nested, misplaced_inside_nested, ih]

/-- What is misplaced is the same, and is found in the same place. -/
theorem Exchanged.misplaced (h : Exchanged types slots slots') :
    misplaced? slots = misplaced? slots' := by
  rw [misplaced?, misplaced?, misplaced_here_congr h.roles, h.misplaced_inside]

end Slot

namespace ArgumentForm

open Slot

variable {types types' : Registry} {slots slots' more more' : List Slot} {slot slot' : Slot}

theorem parts_from_cons {i : Nat} (hrole : slot.isRest = slot'.isRest)
    (hname : slot.nameAt i = slot'.nameAt i)
    (hs : resolve types (slot.nameAt i) slot.typing =
      resolve types' (slot'.nameAt i) slot'.typing)
    (htail : ∀ s, slot.isRest = true → resolve types (slot.nameAt i) slot.typing = .ok s →
      tailOf s (inner types slot) = tailOf s (inner types' slot'))
    (hmore : partsFrom types (i + 1) more = partsFrom types' (i + 1) more') :
    partsFrom types i (slot :: more) = partsFrom types' i (slot' :: more') := by
  cases hr : slot.isRest with
  | false =>
    rw [parts_from_regular types i hr, parts_from_regular types' i (hrole ▸ hr), ← hs, hmore, hname]
  | true =>
    rw [parts_from_rest types i hr, parts_from_rest types' i (hrole ▸ hr), ← hs, hmore, hname]
    refine bind_congr_ok fun s hok => ?_
    rw [htail s hr (hname ▸ hok)]

theorem resolve_agree (name : String)
    (h : ∀ t, slot.typing = .type t → types.lookup t = types'.lookup t) :
    resolve types name slot.typing = resolve types' name slot.typing := by
  unfold resolve
  cases ht : slot.typing with
  | type t => simp only [h t ht]
  | _ => rfl

/-- What the rest takes is told by what is looked up for the nested list, if it is needed at all. -/
theorem tail_of_congr {s : Schema} {x y : Except FormError Schema} (h : s = Schema.any → x = y) :
    tailOf s x = tailOf s y := by
  unfold tailOf
  split
  · rename_i hany
    exact h (any_iff.mp hany)
  · rfl

/-- Registries that agree on the types of a spine resolve its slots alike. -/
theorem parts_from_agree (i : Nat)
    (h : ∀ t, Consulted types slots t → types.lookup t = types'.lookup t) :
    partsFrom types i slots = partsFrom types' i slots := by
  have hhead {slot : Slot} {more : List Slot}
      (h : ∀ t, Consulted types (slot :: more) t → types.lookup t = types'.lookup t) (i : Nat) :
      resolve types (slot.nameAt i) slot.typing = resolve types' (slot.nameAt i) slot.typing :=
    resolve_agree _ fun t ht => h t (.here List.mem_cons_self ht)
  induction i, slots using partsFrom.induct with
  | case1 i => rw [partsFrom, partsFrom]
  | case2 i name typing more ih | case4 i nested typing more ih =>
    refine parts_from_cons rfl rfl (hhead h i) (fun _ hr => ?_) (ih fun t ht => h t ht.cons)
    cases hr
  | case3 i name typing more ih =>
    exact parts_from_cons rfl rfl (hhead h i) (fun _ _ _ => rfl) (ih fun t ht => h t ht.cons)
  | case5 i nested typing more ihin ih =>
    refine parts_from_cons rfl rfl (hhead h i) (fun s _ hok => tail_of_congr ?_)
      (ih fun t ht => h t ht.cons)
    rintro rfl
    rw [inner, inner, ihin fun t ht => h t (.inside List.mem_cons_self (schema_of_resolve hok) ht)]

theorem parts_from_exchanged (h : Exchanged types slots slots') (i : Nat) :
    partsFrom types i slots = partsFrom types i slots' := by
  induction h generalizing i with
  | list more _ _ hshaped =>
    refine parts_from_cons rfl rfl rfl (fun s hr hok => tail_of_congr ?_) rfl
    rintro rfl
    rcases hshaped with rfl | hne
    · cases hr
    · exact absurd (schema_of_resolve hok) hne
  | inside typing role more _ ih =>
    refine parts_from_cons rfl rfl rfl (fun s _ _ => ?_) rfl
    rw [inner, inner, ih]
  | later slot _ ih => exact parts_from_cons rfl rfl rfl (fun _ _ _ => rfl) (ih (i + 1))

/-- A form, or the reason why there is none, depends on the types on the spine of its slots alone,
and on the nested lists beside the spine only by whether they are in order. -/
theorem build_spine (types : Registry) (slots : List Slot) :
    (∀ types', (∀ t, Consulted types slots t → types.lookup t = types'.lookup t) →
      build types slots = build types' slots) ∧
    ∀ slots', Exchanged types slots slots' → build types slots = build types slots' := by
  refine ⟨fun types' h => ?_, fun slots' h => ?_⟩
  · rw [build, build, parts_from_agree 0 h]
  · rw [build, build, h.misplaced, parts_from_exchanged h]

def besideSlots (inner : List Slot) : List Slot :=
  [.nested inner .none .regular,
    .nested [.named "y" (.type (.named "Y")) .regular] .none .rest]

theorem beside_slots_consulted {inner : List Slot} {t : TypeToken}
    (h : Consulted types (besideSlots inner) t) : t = .named "Y" := by
  cases h with
  | here hmem ht =>
    rcases List.mem_pair.mp hmem with rfl | rfl <;> cases ht
  | inside hmem _ h =>
    rcases List.mem_pair.mp hmem with he | he
    · cases he
    · cases he
      cases h with
      | here hmem ht =>
        rw [List.mem_singleton.mp hmem] at ht
        exact (Typing.type.inj ht).symm
      | inside hmem => cases List.mem_singleton.mp hmem

theorem build_spine_beside :
    let types : Registry := Registry.empty.insert (.named "Y") (.bool true)
    let other := types.insert (.named "T") (.bool false)
    let slots := besideSlots [.named "a" (.type (.named "T")) .regular]
    let slots' := besideSlots [.named "b" .none .regular, .named "c" .none .rest]
    (∃ form, build types slots = .ok form) ∧
      types.lookup (.named "T") ≠ other.lookup (.named "T") ∧
      build types slots = build other slots ∧ build types slots = build types slots' := by
  intro types other slots slots'
  obtain ⟨hagree, hexchanged⟩ := build_spine types slots
  refine ⟨?_, by decide, hagree other fun t ht => ?_, hexchanged slots' ?_⟩
  · have hok : (build types slots).toOption.isSome = true := by cbv
    cases hform : build types slots with
    | error e =>
      rw [hform] at hok
      cases hok
    | ok form => exact ⟨form, rfl⟩
  · rw [beside_slots_consulted ht]
    rfl
  · refine .list _ ?_ ?_ (.inl rfl)
    · exact misplaced_iff.mp (by cbv)
    · exact misplaced_iff.mp (by cbv)

end ArgumentForm

end CallContract
