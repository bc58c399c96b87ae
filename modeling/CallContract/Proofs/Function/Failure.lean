import CallContract.Proofs.Function.Compile
import CallContract.Proofs.Function.Request

/-!
# How a request fails

The schemas that a call is held against were found to be schemas when the
function was compiled. So a request fails because there is no arity for the
number of arguments, because the input schema of its arity refuses them, because
the output schema refuses the value, or by a condition or the body. It never
comes upon a schema that is none.
-/

set_option autoImplicit false

namespace CallContract

variable {σ : Type}

theorem verdict_iff {d : Direction} {s : Schema} (hs : s.check = .ok ()) {v : Json}
    {e : CallError} : verdict d s v = some e ↔
      s.accepts v = false ∧ e = .invalid d s ⟨v, s.violations v⟩ := by
  cases hv : s.accepts v with
  | true => simp [verdict_accepted hs hv]
  | false => simp [verdict_refused hs hv, eq_comm]

def Request.args : Request → List Json
  | .call args => args
  | .invoke _ args => args

def CompiledArity.Fails (a : CompiledArity σ) (output : Schema) (args : List Json) :
    CallError → Prop
  | .invalid .input s why =>
    s = a.input ∧ s.accepts (.arr args) = false ∧ why = ⟨.arr args, s.violations (.arr args)⟩
  | .invalid .output s why => s = output ∧ ∃ v, s.accepts v = false ∧ why = ⟨v, s.violations v⟩
  | .condition _ _ => True
  | .body _ => True
  | .arityMismatch _ _ => False
  | .schema _ => False

namespace CompiledFunction

def target? (f : CompiledFunction σ) : Request → Option (CompiledArity σ)
  | .call args => (f.position args.length).bind fun i => f.arities[i]?
  | .invoke index _ => f.arities[index]?

def Fails (f : CompiledFunction σ) (request : Request) (e : CallError) : Prop :=
  match f.target? request with
  | some a => a.Fails f.signature.output request.args e
  | none => e = .arityMismatch f.name request.args.length

theorem mem_of_target {f : CompiledFunction σ} {request : Request} {a : CompiledArity σ}
    (h : f.target? request = some a) : a ∈ f.arities := by
  cases request with
  | call args =>
    obtain ⟨i, -, hi⟩ := Option.bind_eq_some_iff.mp h
    exact List.mem_of_getElem? hi
  | invoke index args => exact List.mem_of_getElem? h

theorem dispatched_target {τ : Type} {f : CompiledFunction σ} {request : Request}
    {a : CompiledArity σ} (h : f.target? request = some a)
    (run : CompiledArity σ → List Json → Run τ) (state : τ) :
    f.dispatched run state request = some (run a request.args) := by
  cases request with
  | call args =>
    obtain ⟨i, hp, hi⟩ := Option.bind_eq_some_iff.mp h
    rw [dispatched, hp, Option.bind_some, hi]
    rfl
  | invoke index args =>
    change f.arities[index]? = some a at h
    rw [dispatched, h]
    rfl

theorem dispatched_none {τ : Type} {f : CompiledFunction σ} {request : Request}
    (h : f.target? request = none) (run : CompiledArity σ → List Json → Run τ) (state : τ) :
    f.dispatched run state request = match request with
      | .call args => some ⟨.error (.arityMismatch f.name args.length), [], state⟩
      | .invoke _ _ => none := by
  cases request with
  | call args =>
    simp only [dispatched]
    cases hp : f.position args.length with
    | none => rfl
    | some i =>
      simp only [target?, hp, Option.bind_some] at h
      simp [h]
  | invoke index args =>
    change f.arities[index]? = none at h
    rw [dispatched, h]
    rfl

end CompiledFunction

namespace ArityBody

variable {b : ArityBody σ} {output : Schema} {decision : Decision} {config : Config}
  {types : Registry} {a : CompiledArity σ}

theorem invoke_error (h : b.compile output decision config types = .ok a) {enabled : Bool}
    {args : List Json} {state : σ} {e : CallError}
    (he : (a.invoke enabled args state).1.result = .error e) :
    (b.run config.assertions args state).result = .error e ∨
      verdict .input a.input (.arr args) = some e ∨
      ∃ v, (b.run config.assertions args state).result = .ok v ∧
        verdict .output output v = some e := by
  have hguarded (hg : (Wrapper.guarded a.input output (b.run config.assertions) args state).result =
      .error e) : (b.run config.assertions args state).result = .error e ∨
        verdict .input a.input (.arr args) = some e ∨
        ∃ v, (b.run config.assertions args state).result = .ok v ∧
          verdict .output output v = some e := by
    unfold Wrapper.guarded at hg
    split at hg
    · rename_i hv
      cases hg
      exact .inr (.inl hv)
    · rcases Wrapper.judged_cases hg with hr | hv
      · exact .inl hr
      · exact .inr (.inr hv)
  obtain ⟨-, hi, hw⟩ := compile_ok h
  rw [CompiledArity.invoke, hi, hw] at he
  cases decision with
  | off => exact .inl he
  | always =>
    rw [Wrapper.ofDecision, Wrapper.call_checking] at he
    exact hguarded he
  | conditional =>
    rw [Wrapper.ofDecision, Wrapper.call_checking] at he
    split at he
    · exact hguarded he
    · exact .inl he

theorem invoke_fails (h : b.compile output decision config types = .ok a)
    (hi : a.input.check = .ok ()) (ho : output.check = .ok ()) {enabled : Bool}
    {args : List Json} {state : σ} {e : CallError}
    (he : (a.invoke enabled args state).1.result = .error e) : a.Fails output args e := by
  rcases invoke_error h he with hr | hv | ⟨v, -, hv⟩
  · rcases run_error hr with ⟨_, rfl⟩ | ⟨_, _, rfl⟩ <;> exact trivial
  · obtain ⟨hrefused, rfl⟩ := (verdict_iff hi).mp hv
    exact ⟨rfl, hrefused, rfl⟩
  · obtain ⟨hrefused, rfl⟩ := (verdict_iff ho).mp hv
    exact ⟨rfl, v, hrefused, rfl⟩

end ArityBody

namespace FunctionDef

variable {d : FunctionDef σ} {config : Config} {types : Registry} {f : CompiledFunction σ}

theorem output_of_compile (h : d.compile config types = .ok f) :
    f.signature.output = d.output ∧ d.output.check = .ok () := by
  obtain ⟨_, -, ho, -, hs, -⟩ := compile_ok h
  obtain ⟨_, -, houtput, -⟩ := Signature.compose_ok hs
  exact ⟨houtput, ho⟩

/-- An arity of a compiled function fails by its own input schema or the function's output schema,
or as its body does. -/
theorem invoke_fails (h : d.compile config types = .ok f) {a : CompiledArity σ}
    (ha : a ∈ f.arities) {enabled : Bool} {args : List Json} {state : σ} {e : CallError}
    (he : (a.invoke enabled args state).1.result = .error e) :
    a.Fails f.signature.output args e := by
  obtain ⟨hallow, b, -, hb⟩ := compile_arity h ha
  obtain ⟨houtput, ho⟩ := output_of_compile h
  rw [houtput]
  exact ArityBody.invoke_fails hb (allow_ok hallow).2 ho he

end FunctionDef

end CallContract
