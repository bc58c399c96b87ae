import Mathlib
import CallContract.Schema.Cell

/-!
# Cells are invisible

A cell answers as an explainer that is built anew for every question. What it
holds shows in nothing but the serial number of the instance it gives.
-/

set_option autoImplicit false

namespace CallContract

theorem Explainer.build_schema (e : Explainer) : build e.schema = .ok e := by
  unfold build
  split
  · rfl
  · rename_i fault h
    rw [e.faultless] at h
    cases h

theorem Explainer.build_of_check {s : Schema} (h : s.check = .ok ()) :
    ∃ e, build s = .ok e ∧ e.schema = s := by
  unfold Schema.check at h
  split at h
  · rename_i hs
    exact ⟨⟨s, hs⟩, build_schema ⟨s, hs⟩, rfl⟩
  · cases h

theorem Explainer.build_of_fault {s : Schema} {e : SchemaError} (h : s.check = .error e) :
    build s = .error e := by
  unfold Schema.check at h
  unfold build
  split at h
  · cases h
  · rename_i fault hs
    split
    · rename_i hn
      rw [hs] at hn
      cases hn
    · rename_i other ho
      rw [hs] at ho
      cases ho
      cases h
      rfl

namespace ExplainerCell

theorem get_answer (c : ExplainerCell) (serial : Nat) :
    (c.get serial).1.map BuiltExplainer.explainer = Explainer.build c.schema := by
  unfold get
  split
  · rename_i b hb
    have hs : b.explainer.schema = c.schema := c.own b (by simp [hb])
    rw [← hs, Explainer.build_schema]
    rfl
  · split
    · rename_i h
      exact h.symm
    · rename_i h
      exact h.symm

theorem get_schema (c : ExplainerCell) (serial : Nat) : (c.get serial).2.schema = c.schema := by
  unfold get
  split
  · rfl
  · split <;> rfl

theorem explain_schema (c : ExplainerCell) (serial : Nat) (v : Json) :
    (c.explain serial v).2.schema = c.schema := by
  have h := c.get_schema serial
  unfold explain
  split <;> rename_i hc <;> rw [hc] at h <;> exact h

theorem explain_answer (c : ExplainerCell) (serial : Nat) (v : Json) :
    (c.explain serial v).1 = (Explainer.build c.schema).map (·.explain v) := by
  have h := c.get_answer serial
  unfold explain
  split <;> rename_i hc <;> rw [hc] at h <;> rw [← h] <;> rfl

end ExplainerCell

end CallContract
