import CallContract.Proofs.Function.Dispatch
import CallContract.Proofs.Session.Hosted

/-!
# Replies of compiled functions

Whatever happens in a session, a request for a function that was compiled is
answered by a value of the arity that it is for, by a failure that is due to the
arguments, the value, a condition or the body, or not at all where there is no
such arity. Schemas were checked when the function was compiled, so none turns
out to be malformed when an explainer is built for it.
-/

set_option autoImplicit false

namespace CallContract

variable {σ : Type}

def CompiledFunction.Replies (f : CompiledFunction σ) (request : Request) :
    Session.Answer σ → Prop
  | .ran (.ok _) _ => (f.target? request).isSome
  | .ran (.error e) _ => f.Fails request e
  | .unknown => f.target? request = none ∧ ∃ index args, request = .invoke index args
  | _ => False

namespace CompiledFunction

variable {f : CompiledFunction σ} {request : Request}

theorem Fails.not_schema {e : CallError} (h : f.Fails request e) (cause : SchemaError) :
    e ≠ .schema cause := by
  rintro rfl
  unfold Fails at h
  split at h
  · exact h
  · cases h

theorem Replies.not_schema {answer : Session.Answer σ} (h : f.Replies request answer)
    (cause : SchemaError) (trace : List Event) : answer ≠ .ran (.error (.schema cause)) trace := by
  rintro rfl
  exact Fails.not_schema h cause rfl

end CompiledFunction

namespace Session

variable {d : FunctionDef σ} {config : Config} {types : Registry} {f : CompiledFunction σ}
  {s : Session σ} {id : String}

theorem step_replies (h : d.compile config types = .ok f) (hs : s.Keeps id f)
    (request : Request) : f.Replies request (s.step (request.step id)).1 := by
  rw [(step_kept hs request).1, CompiledFunction.answer_dispatched]
  cases ht : f.target? request with
  | none =>
    rw [CompiledFunction.dispatched_none ht]
    cases request with
    | call args =>
      change f.Fails (.call args) (.arityMismatch f.name args.length)
      unfold CompiledFunction.Fails
      rw [ht]
      rfl
    | invoke index args => exact ⟨ht, index, args, rfl⟩
  | some a =>
    rw [CompiledFunction.dispatched_target ht]
    change f.Replies request (.ran (a.invoke s.enabled request.args s.state).1.result _)
    cases hr : (a.invoke s.enabled request.args s.state).1.result with
    | ok v => exact Option.isSome_iff_exists.mpr ⟨a, ht⟩
    | error e =>
      change f.Fails request e
      unfold CompiledFunction.Fails
      rw [ht]
      exact FunctionDef.invoke_fails h (CompiledFunction.mem_of_target ht) hr

theorem forall_replies (h : d.compile config types = .ok f) (hs : s.Keeps id f)
    {steps : List (Step σ)} (hsteps : ∀ st ∈ steps, st.Spares id) :
    List.Forall₂ (fun st answer => ∀ request, st = Request.step id request →
      f.Replies request answer) steps (s.run steps).1 := by
  induction steps generalizing s with
  | nil => exact .nil
  | cons st rest ih =>
    refine .cons ?_ (ih (keeps_step hs (hsteps st (by simp))) fun more hm =>
      hsteps more (by simp [hm]))
    rintro request rfl
    exact step_replies h hs request

/-- In a run that does not compile its id anew, a compiled function answers every call and every
invocation without coming upon a malformed schema. What is refused is refused by the input schema of
the arity that was asked for or by the declared output schema. -/
theorem run_replies (h : d.compile config types = .ok f)
    (hs : s.functions.lookup id = some f) (steps : List (Step σ))
    (hsteps : ∀ st ∈ steps, st.Spares id) :
    f.signature.output = d.output ∧
    List.Forall₂ (fun st answer => ∀ request, st = Request.step id request →
      f.Replies request answer ∧
        ∀ cause trace, answer ≠ .ran (.error (.schema cause)) trace) steps (s.run steps).1 := by
  refine ⟨(FunctionDef.output_of_compile h).1, ?_⟩
  apply (forall_replies h (keeps_of_lookup hs) hsteps).imp
  intro st answer hr request hst
  exact ⟨hr request hst, (hr request hst).not_schema⟩

theorem run_replies_range :
    let s := ((start .enabled none fun _ => 0).step (.compile "range" rangeDef false)).2
    let steps := [.call "range" [.str "a"], .toggle false, .invoke "range" 7 []]
    let why : Explanation := ⟨.arr [.str "a"], stopOnly.input.violations (.arr [.str "a"])⟩
    ∃ first second third, (s.run steps).1 = [first, second, third] ∧
      first = .ran (.error (.invalid .input stopOnly.input why)) [] ∧
      rangeFunction.Replies (.call [.str "a"]) first ∧
      rangeFunction.Replies (.invoke 7 []) third := by
  intro s steps why
  have hcompiled : s = { start .enabled none fun _ => 0 with
      functions := put "range" rangeFunction [] } := step_compile range_def_compile
  have henabled : s.enabled = true := congrArg Session.enabled hcompiled
  have hs : s.functions.lookup "range" = some rangeFunction := by
    rw [hcompiled, lookup_put, if_pos rfl]
  have hsteps : ∀ st ∈ steps, st.Spares "range" := by
    simp [steps, Step.Spares]
  obtain ⟨-, hall⟩ := run_replies range_def_compile hs steps hsteps
  obtain ⟨first, rest, hfirst, hrest, hrun⟩ := List.forall₂_cons_left_iff.mp hall
  obtain ⟨second, rest', -, hrest', hsecond⟩ := List.forall₂_cons_left_iff.mp hrest
  obtain ⟨third, rest'', hthird, hrest'', hlast⟩ := List.forall₂_cons_left_iff.mp hrest'
  rw [hsecond, hlast, List.forall₂_nil_left_iff.mp hrest''] at hrun
  refine ⟨first, second, third, hrun, ?_, (hfirst (.call [.str "a"]) rfl).1,
    (hthird (.invoke 7 []) rfl).1⟩
  have hkept := (step_kept (keeps_of_lookup hs) (.call [.str "a"])).1
  refine (List.cons.inj hrun).1.symm.trans (hkept.trans ?_)
  simp only [CompiledFunction.answer, CompiledFunction.call, CompiledFunction.position,
    CompiledFunction.invoke, range_function_arities, henabled]
  rfl

end Session

end CallContract
