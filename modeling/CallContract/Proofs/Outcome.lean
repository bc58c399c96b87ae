import Mathlib

/-!
# Outcomes of steps

A sequence of steps succeeds if each of them does, with the value of the last,
and fails with the error of the first that does not.
-/

set_option autoImplicit false

namespace CallContract

variable {ε ε' α β : Type}

theorem bind_ok {x : Except ε α} {f : α → Except ε β} {b : β} :
    x >>= f = .ok b ↔ ∃ a, x = .ok a ∧ f a = .ok b := by
  cases x with
  | error e => exact ⟨fun h => (nomatch h), fun ⟨_, h, _⟩ => (nomatch h)⟩
  | ok a => exact ⟨fun h => ⟨a, rfl, h⟩, fun ⟨_, ha, h⟩ => Except.ok.inj ha ▸ h⟩

theorem bind_error {x : Except ε α} {f : α → Except ε β} {e : ε} :
    x >>= f = .error e ↔ x = .error e ∨ ∃ a, x = .ok a ∧ f a = .error e := by
  cases x with
  | error e' =>
    exact ⟨fun h => .inl (congrArg _ (Except.error.inj h)),
      fun h => h.elim (fun h => congrArg _ (Except.error.inj h)) fun ⟨_, h, _⟩ => (nomatch h)⟩
  | ok a =>
    exact ⟨fun h => .inr ⟨a, rfl, h⟩,
      fun h => h.elim (fun h => (nomatch h)) fun ⟨_, ha, h⟩ => Except.ok.inj ha ▸ h⟩

theorem exists_and_then {x : Except ε α} {f : α → β} :
    (∃ b, (x >>= fun a => .ok (f a)) = .ok b) ↔ ∃ a, x = .ok a := by
  constructor
  · rintro ⟨_, h⟩
    obtain ⟨a, ha, -⟩ := bind_ok.mp h
    exact ⟨a, ha⟩
  · rintro ⟨a, ha⟩
    exact ⟨_, bind_ok.mpr ⟨a, ha, rfl⟩⟩

theorem exists_both {γ : Type} {x : Except ε α} {y : Except ε β} {f : α → β → γ} :
    (∃ c, (x >>= fun a => y >>= fun b => .ok (f a b)) = .ok c) ↔
      (∃ a, x = .ok a) ∧ ∃ b, y = .ok b := by
  constructor
  · rintro ⟨_, h⟩
    obtain ⟨a, ha, h⟩ := bind_ok.mp h
    obtain ⟨b, hb, -⟩ := bind_ok.mp h
    exact ⟨⟨a, ha⟩, b, hb⟩
  · rintro ⟨⟨a, ha⟩, b, hb⟩
    exact ⟨_, bind_ok.mpr ⟨a, ha, bind_ok.mpr ⟨b, hb, rfl⟩⟩⟩

theorem bind_congr_ok {x : Except ε α} {f g : α → Except ε β} (h : ∀ a, x = .ok a → f a = g a) :
    x >>= f = x >>= g := by
  cases x with
  | error e => rfl
  | ok a => exact h a rfl

theorem map_error_ok {x : Except ε α} {f : ε → ε'} {a : α} :
    x.mapError f = .ok a ↔ x = .ok a := by
  cases x with
  | error e => exact ⟨fun h => (nomatch h), fun h => (nomatch h)⟩
  | ok b => exact ⟨fun h => congrArg _ (Except.ok.inj h), fun h => congrArg _ (Except.ok.inj h)⟩

theorem map_error_error {x : Except ε α} {f : ε → ε'} {e : ε'} :
    x.mapError f = .error e ↔ ∃ cause, x = .error cause ∧ f cause = e := by
  cases x with
  | error cause =>
    exact ⟨fun h => ⟨cause, rfl, Except.error.inj h⟩,
      fun ⟨_, hc, h⟩ => Except.error.inj hc ▸ congrArg _ h⟩
  | ok a => exact ⟨fun h => (nomatch h), fun ⟨_, h, _⟩ => (nomatch h)⟩

section Stages

variable {ε ε' α β : Type} {now later : List ε} {x : Except ε α}

def faultOf : Except ε α → List ε
  | .ok _ => []
  | .error e => [e]

/-- A computation fails with the first of these flaws, and succeeds if there is none. -/
def FailsFirst (flaws : List ε) (x : Except ε α) : Prop :=
  ∀ e, x = .error e ↔ flaws.head? = some e

theorem fails_first_fault (x : Except ε α) : FailsFirst (faultOf x) x := by
  intro e
  cases x <;> simp [faultOf]

theorem FailsFirst.ok_iff (h : FailsFirst now x) : (∃ a, x = .ok a) ↔ now = [] := by
  cases x with
  | error e =>
    have he := (h e).mp rfl
    constructor
    · rintro ⟨_, ha⟩
      cases ha
    · rintro rfl
      cases he
  | ok a =>
    refine ⟨fun _ => ?_, fun _ => ⟨a, rfl⟩⟩
    cases now with
    | nil => rfl
    | cons e rest => cases (h e).mpr rfl

/-- The flaws of two steps are those of the first and then those of the second. -/
theorem FailsFirst.bind {f : α → Except ε β} (h : FailsFirst now x)
    (hf : ∀ a, x = .ok a → FailsFirst later (f a)) : FailsFirst (now ++ later) (x >>= f) := by
  intro e
  cases x with
  | error e' =>
    have he := (h e').mp rfl
    rw [List.head?_append, he]
    exact ⟨fun hb => congrArg some (Except.error.inj hb), fun hs => congrArg _ (Option.some.inj hs)⟩
  | ok a =>
    rw [h.ok_iff.mp ⟨a, rfl⟩]
    exact hf a rfl e

theorem FailsFirst.and_then (h : FailsFirst now x) (f : α → β) :
    FailsFirst now (x >>= fun a => .ok (f a)) := by
  rw [← List.append_nil now]
  exact h.bind fun _ _ _ => by simp

theorem FailsFirst.unless {p : Prop} [Decidable p] {e : ε} (h : ¬p → FailsFirst later x) :
    FailsFirst ((if p then [e] else []) ++ later) (if p then .error e else x) := by
  intro e'
  by_cases hp : p
  · simp [hp]
  · simpa [hp] using h hp e'

theorem FailsFirst.map_error {f : ε → ε'} (h : FailsFirst now x) :
    FailsFirst (now.map f) (x.mapError f) := by
  intro e
  cases x with
  | error e' =>
    rw [List.head?_map, (h e').mp rfl]
    exact ⟨fun hb => congrArg some (Except.error.inj hb), fun hs => congrArg _ (Option.some.inj hs)⟩
  | ok a =>
    rw [h.ok_iff.mp ⟨a, rfl⟩]
    exact ⟨fun hb => (nomatch hb), fun hs => (nomatch hs)⟩

end Stages

end CallContract
