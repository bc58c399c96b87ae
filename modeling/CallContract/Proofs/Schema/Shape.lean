import CallContract.Schema.Splice
import CallContract.Proofs.Schema.Reached

/-!
# The shapes of what is made of schemas

A document has the right shapes if the value of each of its keywords has the
shape of that keyword. So the shapes of a titled schema and of an array with
bounds are right if those of the schemas in it are.
-/

set_option autoImplicit false

namespace CallContract.Schema

def faultsAs : Shape → Json → List Fault
  | .schema, x => shapeFaults x
  | .schemas, .arr items => itemFaults items ++ ifEmpty items
  | .schemas, x => notOf .array x
  | .schemaMap, .obj members => memberFaults members
  | .schemaMap, x => notOf .object x
  | shape, x => plainFaults shape x

theorem entry_faults_nil {voc : Vocabulary} {entries : Entries} :
    entryFaults voc entries = [] ↔
      ∀ e ∈ entries, ∀ shape, voc.shape? e.1 = some shape → faultsAs shape e.2 = [] := by
  induction entries with
  | nil => simp [entryFaults]
  | cons e rest ih =>
    obtain ⟨key, x⟩ := e
    unfold entryFaults
    rw [List.append_eq_nil_iff, ih, List.forall_mem_cons]
    refine and_congr_left fun _ => ?_
    dsimp only
    cases hs : voc.shape? key with
    | none => simp
    | some shape =>
      simp only [Option.some.injEq, forall_eq']
      cases shape with
      | schemas | schemaMap => cases x <;> rfl
      | _ => rfl

theorem shape_of_of_shape {voc : Vocabulary} {key : String} {shape : Shape}
    (h : voc.shape? key = some shape) : shapeOf? key = some shape := by
  have hall : ∀ voc ∈ Vocabulary.all, ∀ e ∈ voc.shapes, shapeOf? e.1 = some e.2 := by decide
  exact hall voc (by cases voc <;> decide) _ (Entries.mem_of_lookup h)

theorem shape_faults_obj {entries : Entries} : shapeFaults (.obj entries) = [] ↔
    ∀ e ∈ entries, ∀ shape, shapeOf? e.1 = some shape → faultsAs shape e.2 = [] := by
  simp only [shapeFaults, List.flatMap_eq_nil_iff, entry_faults_nil]
  constructor
  · intro h e he shape hs
    obtain ⟨voc, hvoc, hs⟩ := List.exists_of_findSome?_eq_some hs
    exact h voc hvoc e he shape hs
  · exact fun h voc _ e he shape hs => h e he shape (shape_of_of_shape hs)

theorem item_faults_nil {items : List Schema} :
    itemFaults items = [] ↔ ∀ s ∈ items, shapeFaults s = [] := by
  induction items with
  | nil => simp [itemFaults]
  | cons s rest ih => rw [itemFaults, List.append_eq_nil_iff, ih, List.forall_mem_cons]

theorem bool_or_obj_of_shape {s : Schema} (h : shapeFaults s = []) :
    (∃ b, s = .bool b) ∨ ∃ entries, s = .obj entries := by
  cases s with
  | bool b => exact .inl ⟨b, rfl⟩
  | obj entries => exact .inr ⟨entries, rfl⟩
  | _ => simp [shapeFaults] at h

theorem not_list_of_shape {s : Schema} (h : shapeFaults s = []) (schemas : List Schema) :
    s ≠ .arr schemas := by
  rcases bool_or_obj_of_shape h with ⟨_, rfl⟩ | ⟨_, rfl⟩
  · exact fun he => nomatch he
  · exact fun he => nomatch he

theorem usable_bool (root : Schema) (b : Bool) : Usable root (.bool b) := by
  intro t ht
  have hb : t = .bool b := by
    induction ht with
    | start => rfl
    | part _ hu ih =>
      obtain ⟨_, he, -⟩ := hu
      cases ih.symm.trans he
    | target _ hr _ ih =>
      rw [ih] at hr
      cases hr
  rw [hb]
  exact fun _ hu => nomatch hu

theorem reached_head {root s t : Schema} (h : Reached root s t) :
    t = s ∨ (∃ u, s.Reads u ∧ Reached root u t) ∨
      ∃ r u, .reference r ∈ s.ownUses ∧ follow root r = .ok u ∧ Reached root u t := by
  induction h with
  | start => exact .inl rfl
  | part _ hv ih =>
    rcases ih with rfl | ⟨u, hu, ht⟩ | ⟨r, u, hr, hf, ht⟩
    · exact .inr (.inl ⟨_, hv, .start⟩)
    · exact .inr (.inl ⟨u, hu, .part ht hv⟩)
    · exact .inr (.inr ⟨r, u, hr, hf, .part ht hv⟩)
  | target _ hr' hv ih =>
    rcases ih with rfl | ⟨u, hu, ht⟩ | ⟨r, u, hr, hf, ht⟩
    · exact .inr (.inr ⟨_, _, hr', hv, .start⟩)
    · exact .inr (.inl ⟨u, hu, .target ht hr' hv⟩)
    · exact .inr (.inr ⟨r, u, hr, hf, .target ht hr' hv⟩)

/-- A schema that uses nothing itself is usable if all that it reads is. -/
theorem usable_of_parts {root s : Schema} (ho : s.ownUses = [])
    (h : ∀ t, s.Reads t → Usable root t) : Usable root s := by
  intro t ht
  rcases reached_head ht with rfl | ⟨u, hu, ht⟩ | ⟨r, u, hr, -, -⟩
  · intro u hu
    rw [ho] at hu
    cases hu
  · exact h u hu t ht
  · rw [ho] at hr
    cases hr

theorem Usable.reached {root s t : Schema} (h : Usable root s) (ht : Reached root s t) :
    Usable root t :=
  fun u hu => h u (ht.trans hu)

theorem sound_in_bool (root : Schema) (b : Bool) : SoundIn root (.bool b) :=
  ⟨rfl, usable_bool root b⟩

end CallContract.Schema
