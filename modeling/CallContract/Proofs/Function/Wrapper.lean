import CallContract.Proofs.Outcome
import CallContract.Proofs.Schema.Cell
import CallContract.Function.SimpleBody
import CallContract.Function.Arity

/-!
# The implementation between two checks

A checking wrapper runs the implementation that the direct wrapper is, exactly
once and on the same arguments, unless the arguments are refused; a value that
it gives is held against the output schema and an error is passed on. What
earlier calls have built is invisible: a call gives what it would give on the
fresh wrapper, and leaves the wrapper as it was up to built explainers.
-/

set_option autoImplicit false

namespace CallContract

def verdict (direction : Direction) (s : Schema) (v : Json) : Option CallError :=
  match s.check with
  | .error e => some (.schema e)
  | .ok () => if s.accepts v then none else some (.invalid direction s ⟨v, s.violations v⟩)

theorem verdict_fault {d : Direction} {s : Schema} {e : SchemaError} (h : s.check = .error e)
    (v : Json) : verdict d s v = some (.schema e) := by
  simp [verdict, h]

theorem verdict_accepted {d : Direction} {s : Schema} {v : Json} (hs : s.check = .ok ())
    (h : s.accepts v = true) : verdict d s v = none := by
  simp [verdict, hs, h]

theorem verdict_refused {d : Direction} {s : Schema} {v : Json} (hs : s.check = .ok ())
    (h : s.accepts v = false) :
    verdict d s v = some (.invalid d s ⟨v, s.violations v⟩) := by
  simp [verdict, hs, h]

theorem verdict_cases {d : Direction} {s : Schema} {v : Json} {e : CallError}
    (h : verdict d s v = some e) : (∃ cause, e = .schema cause) ∨ ∃ why, e = .invalid d s why := by
  unfold verdict at h
  split at h
  · cases h
    exact .inl ⟨_, rfl⟩
  · split at h
    · cases h
    · cases h
      exact .inr ⟨_, rfl⟩

theorem refusal_verdict (d : Direction) (c : ExplainerCell) (v : Json) :
    (refusal d c v).1 = verdict d c.schema v := by
  have h := c.explain_answer 0 v
  cases hs : c.schema.check with
  | error e =>
    rw [Explainer.build_of_fault hs] at h
    rw [verdict_fault hs]
    unfold refusal
    split <;> rename_i hc <;> rw [hc] at h <;> cases h
    rfl
  | ok _ =>
    obtain ⟨e, he, hes⟩ := Explainer.build_of_check hs
    rw [he] at h
    have hr : (refusal d c v).1 = (e.explain v).map (.invalid d c.schema) := by
      unfold refusal
      split <;> rename_i hc <;> rw [hc] at h <;> cases h
      rfl
    rw [hr, Explainer.explain, Explainer.isValid, hes, verdict, hs]
    cases c.schema.accepts v <;> rfl

theorem refusal_schema (d : Direction) (c : ExplainerCell) (v : Json) :
    (refusal d c v).2.schema = c.schema := by
  have h := c.explain_schema 0 v
  unfold refusal
  split <;> rename_i hc <;> rw [hc] at h <;> exact h

namespace Wrapper

variable {σ : Type}

def fresh : Wrapper → Wrapper
  | .direct => .direct
  | .checking always input output => .checking always (.new input.schema) (.new output.schema)

def judged (output : Schema) (r : Run σ) : Run σ :=
  match r.result with
  | .error _ => r
  | .ok v => match verdict .output output v with
    | some e => { r with result := .error e }
    | none => r

/-- A checked run in terms of the schemas alone. -/
def guarded (input output : Schema) (implementation : List Json → σ → Run σ) (args : List Json)
    (state : σ) : Run σ :=
  match verdict .input input (.arr args) with
  | some e => ⟨.error e, [], state⟩
  | none => judged output (implementation args state)

theorem check_result_run (c : ExplainerCell) (r : Run σ) :
    (checkResult c r).1 = judged c.schema r := by
  cases hr : r.result with
  | error e => simp [checkResult, judged, hr]
  | ok v =>
    simp only [checkResult, judged, hr, ← refusal_verdict]
    cases refusal .output c v with
    | mk refused cell => cases refused <;> rfl

theorem check_result_schema (c : ExplainerCell) (r : Run σ) :
    (checkResult c r).2.schema = c.schema := by
  unfold checkResult
  split
  · rfl
  · rename_i v hv
    have h := refusal_schema .output c v
    split <;> rename_i hc <;> rw [hc] at h <;> exact h

theorem call_checking (always : Bool) (input output : ExplainerCell)
    (implementation : List Json → σ → Run σ) (enabled : Bool) (args : List Json) (state : σ) :
    ((Wrapper.checking always input output).call implementation enabled args state).1 =
      if always || enabled then
        guarded input.schema output.schema implementation args state
      else implementation args state := by
  cases hon : always || enabled with
  | false => simp [call, hon]
  | true =>
    simp only [call, hon, if_true, guarded, ← refusal_verdict]
    cases refusal .input input (.arr args) with
    | mk refused cell =>
      cases refused with
      | some e => rfl
      | none => exact check_result_run output _

theorem call_fresh (w : Wrapper) (implementation : List Json → σ → Run σ) (enabled : Bool)
    (args : List Json) (state : σ) :
    (w.fresh.call implementation enabled args state).1 =
      (w.call implementation enabled args state).1 := by
  cases w with
  | direct => rfl
  | checking always input output => rw [fresh, call_checking, call_checking]; rfl

theorem fresh_call (w : Wrapper) (implementation : List Json → σ → Run σ) (enabled : Bool)
    (args : List Json) (state : σ) :
    (w.call implementation enabled args state).2.fresh = w.fresh := by
  cases w with
  | direct => rfl
  | checking always input output =>
    have hi := refusal_schema .input input (.arr args)
    have ho := check_result_schema output (implementation args state)
    cases hon : always || enabled with
    | false => simp [call, hon]
    | true =>
      simp only [call, hon, if_true]
      split <;> rename_i hc <;> rw [hc] at hi
      · rw [fresh, fresh, hi]
      · rw [fresh, fresh, hi, ho]

theorem judged_error {output : Schema} {r : Run σ} {e : CallError} (h : r.result = .error e) :
    judged output r = r := by
  simp [judged, h]

theorem judged_trace (output : Schema) (r : Run σ) : (judged output r).trace = r.trace := by
  unfold judged
  split
  · rfl
  · split <;> rfl

theorem judged_state (output : Schema) (r : Run σ) : (judged output r).state = r.state := by
  unfold judged
  split
  · rfl
  · split <;> rfl

theorem judged_value (output : Schema) {r : Run σ} {v : Json} (h : r.result = .ok v) :
    (judged output r).result =
      match verdict .output output v with
      | some e => .error e
      | none => .ok v := by
  simp only [judged, h]
  split
  · rfl
  · exact h

theorem judged_cases {output : Schema} {r : Run σ} {e : CallError}
    (h : (judged output r).result = .error e) :
    r.result = .error e ∨ ∃ v, r.result = .ok v ∧ verdict .output output v = some e := by
  cases hr : r.result with
  | error e' =>
    rw [judged_error hr, hr] at h
    exact .inl h
  | ok v =>
    rw [judged_value output hr] at h
    split at h
    · rename_i hv
      cases h
      exact .inr ⟨v, rfl, hv⟩
    · cases h

/-- The output schema is not consulted unless the implementation gives a value. -/
theorem call_keeps_output (always : Bool) (input output : ExplainerCell)
    (implementation : List Json → σ → Run σ) (enabled : Bool) (args : List Json) (state : σ)
    (h : verdict .input input.schema (.arr args) = none →
      ∃ e, (implementation args state).result = .error e) :
    ∃ cell, ((Wrapper.checking always input output).call implementation enabled args state).2 =
      .checking always cell output := by
  cases hon : always || enabled with
  | false => exact ⟨input, by simp [call, hon]⟩
  | true =>
    have hr := refusal_verdict .input input (.arr args)
    simp only [call, hon, if_true]
    split <;> rename_i cell hc <;> rw [hc] at hr
    · exact ⟨cell, rfl⟩
    · obtain ⟨e, he⟩ := h hr.symm
      exact ⟨cell, by simp [checkResult, he]⟩

end Wrapper

structure Call (σ : Type) where
  enabled : Bool
  args : List Json
  state : σ

namespace CompiledArity

variable {σ : Type}

def fresh (a : CompiledArity σ) : CompiledArity σ := { a with wrapper := a.wrapper.fresh }

theorem invoke_fresh (a : CompiledArity σ) (enabled : Bool) (args : List Json) (state : σ) :
    (a.fresh.invoke enabled args state).1 = (a.invoke enabled args state).1 :=
  a.wrapper.call_fresh a.implementation enabled args state

theorem fresh_invoke (a : CompiledArity σ) (enabled : Bool) (args : List Json) (state : σ) :
    (a.invoke enabled args state).2.fresh = a.fresh := by
  have h := a.wrapper.fresh_call a.implementation enabled args state
  exact congrArg (fun w => { a with wrapper := w }) h

def after (a : CompiledArity σ) : List (Call σ) → CompiledArity σ
  | [] => a
  | c :: rest => (a.invoke c.enabled c.args c.state).2.after rest

theorem fresh_after (a : CompiledArity σ) (calls : List (Call σ)) :
    (a.after calls).fresh = a.fresh := by
  induction calls generalizing a with
  | nil => rfl
  | cons c rest ih => rw [after, ih, fresh_invoke]

theorem invoke_after (a : CompiledArity σ) (calls : List (Call σ)) (enabled : Bool)
    (args : List Json) (state : σ) :
    ((a.after calls).invoke enabled args state).1 = (a.invoke enabled args state).1 := by
  rw [← invoke_fresh, fresh_after, invoke_fresh]

def outputCell? (a : CompiledArity σ) : Option ExplainerCell :=
  match a.wrapper with
  | .direct => none
  | .checking _ _ output => some output

theorem invoke_keeps_output (a : CompiledArity σ) (enabled : Bool) (args : List Json) (state : σ)
    (h : ∀ always input output, a.wrapper = .checking always input output →
      verdict .input input.schema (.arr args) = none →
        ∃ e, (a.implementation args state).result = .error e) :
    (a.invoke enabled args state).2.outputCell? = a.outputCell? := by
  rcases a with ⟨form, implementation, _ | ⟨always, input, output⟩⟩
  · rfl
  · obtain ⟨cell, hc⟩ := Wrapper.call_keeps_output always input output implementation enabled
      args state (h always input output rfl)
    change outputCell? ⟨form, implementation,
      (Wrapper.call _ implementation enabled args state).2⟩ = _
    rw [hc]
    rfl

end CompiledArity

theorem ArityBody.compile_ok {σ : Type} {b : ArityBody σ} {output : Schema} {decision : Decision}
    {config : Config} {types : Registry} {a : CompiledArity σ}
    (h : b.compile output decision config types = .ok a) :
    ArgumentForm.build types b.slots = .ok a.form ∧ a.implementation = b.run config.assertions ∧
      a.wrapper = .ofDecision a.input output decision := by
  obtain ⟨form, hf, h⟩ := bind_ok.mp h
  cases h
  exact ⟨hf, rfl, rfl⟩

/-- What a call of a checking arity does, whatever was called before. -/
theorem ArityBody.invoke_checking {σ : Type} {b : ArityBody σ} {output : Schema}
    {decision : Decision} {config : Config} {types : Registry} {a : CompiledArity σ}
    (h : b.compile output decision config types = .ok a) (earlier : List (Call σ))
    {enabled : Bool} (hon : decision = .always ∨ decision = .conditional ∧ enabled = true)
    (args : List Json) (state : σ) :
    ((a.after earlier).invoke enabled args state).1 =
      Wrapper.guarded a.input output (b.run config.assertions) args state := by
  obtain ⟨-, hi, hw⟩ := compile_ok h
  rw [CompiledArity.invoke_after, CompiledArity.invoke, hi, hw]
  rcases hon with rfl | ⟨rfl, rfl⟩
  · exact Wrapper.call_checking true _ _ _ _ _ _
  · exact Wrapper.call_checking false _ _ _ _ _ _

theorem ArityBody.invoke_keeps_output {σ : Type} {b : ArityBody σ} {output : Schema}
    {decision : Decision} {config : Config} {types : Registry} {a : CompiledArity σ}
    (h : b.compile output decision config types = .ok a) (earlier : List (Call σ))
    {enabled : Bool} (hon : decision = .always ∨ decision = .conditional ∧ enabled = true)
    {args : List Json} {state : σ} (hr : verdict .input a.input (.arr args) = none →
      ∃ e, (b.run config.assertions args state).result = .error e) :
    ((a.after earlier).invoke enabled args state).2.outputCell? =
      (a.after earlier).outputCell? := by
  obtain ⟨-, hi, hw⟩ := compile_ok h
  have hfresh := a.fresh_after earlier
  have himplementation := congrArg CompiledArity.implementation hfresh
  change (a.after earlier).implementation = a.implementation at himplementation
  have hwrapper := congrArg CompiledArity.wrapper hfresh
  change (a.after earlier).wrapper.fresh = a.wrapper.fresh at hwrapper
  apply CompiledArity.invoke_keeps_output
  intro always input other hchecking
  have hinput : input.schema = a.input := by
    rw [hchecking, hw] at hwrapper
    rcases hon with rfl | ⟨rfl, rfl⟩ <;> injection hwrapper with _ hcell _ <;>
      exact congrArg ExplainerCell.schema hcell
  rw [hinput, himplementation, hi]
  exact hr

/-- A checking arity and the direct arity of one body, on the same arguments and state. Where a
schema is no schema, or refuses, nothing is run or changed that the direct arity does not run or
change, and the output schema is consulted for nothing but a value. -/
theorem checking_refines_direct {σ : Type} (b : ArityBody σ) (output : Schema)
    (decision : Decision) (config : Config) (types : Registry) {D W : CompiledArity σ}
    (hD : b.compile output .off config types = .ok D)
    (hW : b.compile output decision config types = .ok W)
    (earlier : List (Call σ)) (enabled : Bool)
    (hon : decision = .always ∨ decision = .conditional ∧ enabled = true)
    (args : List Json) (state : σ) :
    let direct := (D.invoke enabled args state).1
    let w := W.after earlier
    let run := (w.invoke enabled args state).1
    let unconsulted := (w.invoke enabled args state).2.outputCell? = w.outputCell?
    direct = b.run config.assertions args state ∧ D.input = W.input ∧
    (∀ e, W.input.check = .error e → run = ⟨.error (.schema e), [], state⟩ ∧ unconsulted) ∧
    (W.input.check = .ok () → W.input.accepts (.arr args) = false →
      run = ⟨.error (.invalid .input W.input ⟨.arr args, W.input.violations (.arr args)⟩), [],
        state⟩ ∧ unconsulted) ∧
    (W.input.check = .ok () → W.input.accepts (.arr args) = true →
      run.trace = direct.trace ∧ run.state = direct.state ∧
      (∀ e, direct.result = .error e → run.result = .error e ∧ unconsulted) ∧
      (∀ v, direct.result = .ok v →
        (∀ e, output.check = .error e → run.result = .error (.schema e)) ∧
        (output.check = .ok () → output.accepts v = true → run.result = .ok v) ∧
        (output.check = .ok () → output.accepts v = false →
          run.result = .error (.invalid .output output ⟨v, output.violations v⟩)))) := by
  intro direct w run unconsulted
  obtain ⟨hDf, hDi, hDw⟩ := ArityBody.compile_ok hD
  obtain ⟨hWf, -, -⟩ := ArityBody.compile_ok hW
  have hform : D.form = W.form := Except.ok.inj (hDf.symm.trans hWf)
  have hdirect : direct = b.run config.assertions args state := by
    simp only [direct, CompiledArity.invoke, hDw, hDi]
    rfl
  have hrun : run = Wrapper.guarded W.input output (b.run config.assertions) args state :=
    ArityBody.invoke_checking hW earlier hon args state
  -- the output cell is consulted for a value only: not after a refusal, and not after an error
  have hkeep (h : verdict .input W.input (.arr args) = none →
      ∃ e, direct.result = .error e) : unconsulted :=
    ArityBody.invoke_keeps_output hW earlier hon (hdirect ▸ h)
  refine ⟨hdirect, congrArg ArgumentForm.input hform, ?_, ?_, ?_⟩
  · intro e he
    have hv := verdict_fault (d := .input) he (.arr args)
    exact ⟨by rw [hrun, Wrapper.guarded, hv], hkeep (by simp [hv])⟩
  · intro hs ha
    have hv := verdict_refused (d := .input) hs ha
    exact ⟨by rw [hrun, Wrapper.guarded, hv], hkeep (by simp [hv])⟩
  · intro hs ha
    have hjudged : run = Wrapper.judged output direct := by
      rw [hrun, Wrapper.guarded, verdict_accepted hs ha, hdirect]
    refine ⟨hjudged ▸ Wrapper.judged_trace output direct,
      hjudged ▸ Wrapper.judged_state output direct, ?_, ?_⟩
    · intro e he
      exact ⟨by rw [hjudged, Wrapper.judged_error he, he], hkeep fun _ => ⟨e, he⟩⟩
    · intro v hv
      have hresult := Wrapper.judged_value output hv
      rw [← hjudged] at hresult
      refine ⟨fun e he => ?_, fun ho hov => ?_, fun ho hov => ?_⟩
      · rw [hresult, verdict_fault he]
      · rw [hresult, verdict_accepted ho hov]
      · rw [hresult, verdict_refused ho hov]

def countingBody : ArityBody Counters :=
  ⟨[.named "x" (.schema (.obj [("type", .str "integer")])) .regular], .calls 0, [], []⟩

def countingForm : ArgumentForm :=
  let s : Schema := .obj [("type", .str "integer")]
  ⟨[⟨"x", s, 0, .regular⟩], none, Schema.tuple [(s, [("title", .str "x")])]⟩

def countingArity (output : Schema) (decision : Decision) : CompiledArity Counters :=
  ⟨countingForm, countingBody.run true, .ofDecision countingForm.input output decision⟩

theorem counting_body_compile (output : Schema) (decision : Decision) :
    countingBody.compile output decision .enabled .empty = .ok (countingArity output decision) := by
  have h : ArgumentForm.build .empty countingBody.slots = .ok countingForm := by cbv
  rw [ArityBody.compile, h]
  rfl

theorem checking_refines_direct_counted :
    let text : Schema := .obj [("type", .str "string")]
    let w := (countingArity text .conditional).after [⟨false, [], fun _ => 3⟩]
    let run := (w.invoke true [.natural 5] fun _ => 0).1
    countingBody.compile text .off .enabled .empty = .ok (countingArity text .off) ∧
    countingBody.compile text .conditional .enabled .empty =
      .ok (countingArity text .conditional) ∧
    run.trace = [.body] ∧ run.state 0 = 1 ∧
    run.result = .error (.invalid .output text
      ⟨.natural 1, [⟨[], [.key "type"], .natural 1, .wrongKind .string⟩]⟩) := by
  intro text w run
  have hD := counting_body_compile text .off
  have hW := counting_body_compile text .conditional
  obtain ⟨-, -, -, -, haccepted⟩ := checking_refines_direct countingBody text .conditional .enabled
    .empty hD hW [⟨false, [], fun _ => 3⟩] true (.inr ⟨rfl, rfl⟩) [.natural 5] fun _ => 0
  obtain ⟨htrace, hstate, -, hvalue⟩ := haccepted (by rfl) (by rfl)
  obtain ⟨-, -, hrefused⟩ := hvalue (.natural 1) (by rfl)
  exact ⟨hD, hW, htrace, by rw [hstate]; rfl, hrefused (by rfl) (by rfl)⟩

end CallContract
