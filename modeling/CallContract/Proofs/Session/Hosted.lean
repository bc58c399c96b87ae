import CallContract.Session
import CallContract.Proofs.Function.Request

/-!
# Functions under an id

A session keeps the function under an id until that id is compiled anew: every
other step leaves the function as it was up to built explainers. So a request
is answered, at any time, by the function that was compiled, from the toggle and
the body state that the request meets.
-/

set_option autoImplicit false

namespace CallContract

variable {σ ρ : Type}

def Request.step (id : String) : Request → Session.Step σ
  | .call args => .call id args
  | .invoke index args => .invoke id index args

namespace Session

theorem lookup_put {α : Type} (i j : String) (x : α) (xs : List (String × α)) :
    (put i x xs).lookup j = if j = i then some x else xs.lookup j := by
  unfold put
  rw [List.lookup_cons]
  by_cases h : j = i
  · simp [h]
  · rw [if_neg h, beq_false_of_ne h]
    induction xs with
    | nil => rfl
    | cons entry rest ih =>
      obtain ⟨k, y⟩ := entry
      by_cases hk : k = i
      · subst hk
        simpa [List.lookup_cons, beq_false_of_ne h] using ih
      · cases hjk : j == k with
        | true => simp [List.lookup_cons, hk, hjk]
        | false => simpa [List.lookup_cons, hk, hjk] using ih

theorem run_cons (s : Session σ) (st : Step σ) (rest : List (Step σ)) :
    (s.run (st :: rest)).2 = ((s.step st).2.run rest).2 := rfl

theorem run_append (s : Session σ) (steps more : List (Step σ)) :
    (s.run (steps ++ more)).2 = ((s.run steps).2.run more).2 := by
  induction steps generalizing s with
  | nil => rfl
  | cons st rest ih => exact ih (s.step st).2

theorem step_compile {s : Session σ} {id : String} {d : FunctionDef σ} {f : CompiledFunction σ}
    (h : d.compile s.config s.types = .ok f) :
    (s.step (.compile id d false)).2 = { s with functions := put id f s.functions } := by
  simp only [step, Bool.false_eq_true, if_false, h]

def reported (run : Option (Run ρ)) : Answer σ :=
  match run with
  | some r => .ran r.result r.trace
  | none => .unknown

def stateAfter (run : Option (Run ρ)) (state : ρ) : ρ :=
  match run with
  | some r => r.state
  | none => state

def Step.Spares (id : String) : Step σ → Prop
  | .compile other _ _ => other ≠ id
  | _ => True

/-- The session has the function under the id, up to built explainers. -/
def Keeps (s : Session σ) (id : String) (f : CompiledFunction σ) : Prop :=
  ∃ g, s.functions.lookup id = some g ∧ g.fresh = f.fresh

variable {s : Session σ} {id : String} {f : CompiledFunction σ}

theorem keeps_of_lookup (h : s.functions.lookup id = some f) : s.Keeps id f := ⟨f, h, rfl⟩

theorem step_request (s : Session σ) (id : String) (request : Request) :
    s.step (request.step id) =
      match (s.functions.lookup id).bind (·.answer request s.enabled s.state) with
      | some r => s.ranFunction id r
      | none => (.unknown, s) := by
  cases request with
  | call args =>
    simp only [Request.step, step]
    cases s.functions.lookup id <;> rfl
  | invoke index args => rfl

/-- A request is answered by the function that is kept, and leaves the toggle. -/
theorem step_kept (hs : s.Keeps id f) (request : Request) :
    let run := (f.answer request s.enabled s.state).map (·.1)
    let r := s.step (request.step id)
    r.1 = reported run ∧ r.2.state = stateAfter run s.state ∧ r.2.enabled = s.enabled := by
  intro run r
  obtain ⟨g, hg, hfresh⟩ := hs
  have hanswer : (g.answer request s.enabled s.state).map (·.1) = run := by
    rw [← g.answer_fresh, hfresh, CompiledFunction.answer_fresh]
  simp only [r]
  rw [step_request, hg, Option.bind_some, ← hanswer]
  cases g.answer request s.enabled s.state <;> exact ⟨rfl, rfl, rfl⟩

theorem keeps_request (hs : s.Keeps id f) (other : String) (request : Request) :
    (s.step (request.step other)).2.Keeps id f := by
  rw [step_request]
  split
  · rename_i r hr
    obtain ⟨h, hh, ha⟩ := Option.bind_eq_some_iff.mp hr
    obtain ⟨g, hg, hfresh⟩ := hs
    change ∃ g, (put other r.2 s.functions).lookup id = some g ∧ _
    rw [lookup_put]
    by_cases hid : id = other
    · subst hid
      obtain rfl := Option.some.inj (hg.symm.trans hh)
      exact ⟨r.2, if_pos rfl, (CompiledFunction.fresh_answer ha).trans hfresh⟩
    · exact ⟨g, by rw [if_neg hid, hg], hfresh⟩
  · exact hs

theorem keeps_step (hs : s.Keeps id f) {st : Step σ} (h : st.Spares id) :
    (s.step st).2.Keeps id f := by
  cases st with
  | register t schema =>
    simp only [step, changeTypes]
    cases s.own <;> exact hs
  | unregister t =>
    simp only [step, changeTypes]
    cases s.own <;> exact hs
  | compile other d plain =>
    simp only [step]
    split
    · rename_i g _
      obtain ⟨f', hf, hfresh⟩ := hs
      refine ⟨f', ?_, hfresh⟩
      change (put other g s.functions).lookup id = some f'
      rw [lookup_put, if_neg (Ne.symm h), hf]
    · exact hs
  | call other args => exact keeps_request hs other (.call args)
  | invoke other index args => exact keeps_request hs other (.invoke index args)
  | describe other => simp only [step]; split <;> exact hs
  | input other arity => simp only [step]; split <;> exact hs
  | compileArity other b output decision => simp only [step]; split <;> exact hs
  | invokeArity other args => simp only [step]; split <;> exact hs
  | configure config => exact hs
  | toggle enabled => exact hs
  | isEnabled => exact hs

end Session

inductive Turn where
  | toggle (enabled : Bool)
  | request (request : Request)

def Turn.step (id : String) : Turn → Session.Step σ
  | .toggle enabled => .toggle enabled
  | .request asked => asked.step id

namespace Session

/-- Two sessions that a function cannot tell apart, each with an id for it. -/
structure Alike (f : CompiledFunction σ) (s : Session σ) (id : String) (s' : Session σ)
    (id' : String) : Prop where
  left : s.Keeps id f
  right : s'.Keeps id' f
  enabled : s.enabled = s'.enabled
  state : s.state = s'.state

variable {f : CompiledFunction σ} {s s' : Session σ} {id id' : String}

theorem alike_step (h : Alike f s id s' id') (t : Turn) :
    (s.step (t.step id)).1 = (s'.step (t.step id')).1 ∧
      Alike f (s.step (t.step id)).2 id (s'.step (t.step id')).2 id' := by
  cases t with
  | toggle enabled => exact ⟨congrArg Answer.previous h.enabled, h.left, h.right, rfl, h.state⟩
  | request request =>
    obtain ⟨hanswer, hstate, htoggle⟩ := step_kept h.left request
    obtain ⟨hanswer', hstate', htoggle'⟩ := step_kept h.right request
    rw [← h.enabled, ← h.state] at hanswer' hstate'
    exact ⟨hanswer.trans hanswer'.symm, keeps_request h.left id request,
      keeps_request h.right id' request, htoggle.trans (h.enabled.trans htoggle'.symm),
      hstate.trans hstate'.symm⟩

/-- The answers of a function depend on the toggle and the body state alone. -/
theorem alike_run (h : Alike f s id s' id') (turns : List Turn) :
    (s.run (turns.map (·.step id))).1 = (s'.run (turns.map (·.step id'))).1 ∧
      Alike f (s.run (turns.map (·.step id))).2 id (s'.run (turns.map (·.step id'))).2 id' := by
  induction turns generalizing s s' with
  | nil => exact ⟨rfl, h⟩
  | cons t rest ih =>
    obtain ⟨hanswer, hstep⟩ := alike_step h t
    obtain ⟨hanswers, hrun⟩ := ih hstep
    refine ⟨?_, hrun⟩
    simp only [List.map_cons, run]
    rw [hanswer, hanswers]

end Session

end CallContract
