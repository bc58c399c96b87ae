import CallContract.Declaration.Basic
import CallContract.Proofs.Function.Flaw

/-!
# Declared slots that fit together

A declared slot becomes a slot if it and all slots nested in it have the fields
that go together. An arity keeps the number of its regular slots and whether it
has one for the rest, and a function the number and order of its arities.
-/

set_option autoImplicit false

namespace CallContract

namespace DeclaredSlot

mutual

def wellFormed : DeclaredSlot → Bool
  | ⟨name, schema, type, args⟩ =>
    !(schema.isSome && type.isSome) && match args with
      | none => name.isSome
      | some args => name.isNone && allWellFormed args

def allWellFormed : List DeclaredSlot → Bool
  | [] => true
  | s :: more => wellFormed s && allWellFormed more

end

theorem typing_ok {schema : Option Schema} {type : Option String} :
    (∃ a, typing schema type = .ok a) ↔ (schema.isSome && type.isSome) = false := by
  cases schema <;> cases type <;> simp [typing]

mutual

theorem to_slot_ok (role : Role) (s : DeclaredSlot) :
    (∃ slot, toSlot role s = .ok slot) ↔ s.wellFormed = true := by
  match s with
  | ⟨some _, _, _, some _⟩ => simp [toSlot, wellFormed]
  | ⟨none, _, _, none⟩ => simp [toSlot, wellFormed]
  | ⟨some name, schema, type, none⟩ =>
    rw [wellFormed, Option.isSome_some, Bool.and_true, Bool.not_eq_true', ← typing_ok, toSlot]
    exact exists_and_then
  | ⟨none, schema, type, some args⟩ =>
    rw [wellFormed, Option.isNone_none, Bool.true_and, Bool.and_eq_true, Bool.not_eq_true',
      ← typing_ok, ← to_slots_ok args, toSlot]
    exact exists_both.trans and_comm

theorem to_slots_ok (slots : List DeclaredSlot) :
    (∃ found, toSlots slots = .ok found) ↔ allWellFormed slots = true := by
  match slots with
  | [] => simp [toSlots, allWellFormed]
  | s :: more =>
    rw [allWellFormed, Bool.and_eq_true, ← to_slot_ok .regular s, ← to_slots_ok more, toSlots]
    exact exists_both

end

theorem role_of_to_slot {role : Role} {s : DeclaredSlot} {slot : Slot}
    (h : toSlot role s = .ok slot) : slot.role = role := by
  unfold toSlot at h
  split at h
  · cases h
  · cases h
  · obtain ⟨_, -, h⟩ := bind_ok.mp h
    cases h
    rfl
  · obtain ⟨_, -, h⟩ := bind_ok.mp h
    obtain ⟨_, -, h⟩ := bind_ok.mp h
    cases h
    rfl

theorem regular_of_to_slots {slots : List DeclaredSlot} {found : List Slot}
    (h : toSlots slots = .ok found) :
    found.length = slots.length ∧ ∀ slot ∈ found, slot.isRest = false := by
  induction slots generalizing found with
  | nil =>
    rw [toSlots] at h
    cases h
    exact ⟨rfl, fun _ h => nomatch h⟩
  | cons s more ih =>
    rw [toSlots] at h
    obtain ⟨slot, hs, h⟩ := bind_ok.mp h
    obtain ⟨rest, hm, h⟩ := bind_ok.mp h
    cases h
    obtain ⟨hlength, hall⟩ := ih hm
    refine ⟨congrArg (· + 1) hlength, List.forall_mem_cons.mpr ⟨?_, hall⟩⟩
    rw [Slot.isRest, role_of_to_slot hs]
    rfl

end DeclaredSlot

namespace DeclaredArity

def wellFormed (a : DeclaredArity) : Bool :=
  DeclaredSlot.allWellFormed a.args && a.rest.all (·.wellFormed)

def takes (a : DeclaredArity) (count : Nat) : Bool :=
  if a.rest.isSome then a.args.length ≤ count else count == a.args.length

theorem to_slots_ok (a : DeclaredArity) :
    (∃ slots, a.toSlots = .ok slots) ↔ a.wellFormed = true := by
  obtain ⟨args, rest⟩ := a
  rw [wellFormed, Bool.and_eq_true, ← DeclaredSlot.to_slots_ok]
  cases rest with
  | none => exact exists_and_then.trans (and_iff_left rfl).symm
  | some rest =>
    rw [Option.all_some, ← DeclaredSlot.to_slot_ok .rest]
    exact exists_both

end DeclaredArity

namespace DeclaredFunction

variable {σ : Type}

def wellFormed (f : DeclaredFunction) : Bool := f.arities.all (·.wellFormed)

theorem mem_bodies {f : DeclaredFunction} {result : Json} {i : Nat}
    {arities : List DeclaredArity} {bodies : List (ArityBody σ)}
    (h : f.bodiesFrom result i arities = .ok bodies) (b : ArityBody σ) :
    b ∈ bodies ↔ ∃ a ∈ arities, ∃ slots, a.toSlots = .ok slots ∧
      b = ⟨slots, .const result, [], []⟩ := by
  induction arities generalizing i bodies with
  | nil =>
    cases h
    simp
  | cons a more ih =>
    obtain ⟨slots, hs, h⟩ := bind_ok.mp h
    obtain ⟨rest, hm, h⟩ := bind_ok.mp h
    cases h
    rw [List.mem_cons, ih hm, List.exists_mem_cons_iff]
    refine or_congr ⟨fun hb => ⟨slots, map_error_ok.mp hs, hb⟩, ?_⟩ Iff.rfl
    rintro ⟨found, hf, hb⟩
    rw [map_error_ok.mp hs] at hf
    cases hf
    exact hb

theorem bodies_from_ok (f : DeclaredFunction) (result : Json) (i : Nat)
    (arities : List DeclaredArity) :
    (∃ bodies, f.bodiesFrom (σ := σ) result i arities = .ok bodies) ↔
      arities.all (·.wellFormed) = true := by
  induction arities generalizing i with
  | nil => simp [bodiesFrom]
  | cons a more ih =>
    rw [List.all_cons, Bool.and_eq_true, ← DeclaredArity.to_slots_ok, ← ih (i + 1), bodiesFrom]
    exact exists_both.trans (and_congr_left' (exists_congr fun _ => map_error_ok))

end DeclaredFunction

end CallContract
