import CallContract.Proofs.Function.Invoke
import CallContract.Proofs.Function.Failure
import CallContract.Proofs.Schema.Explanation

/-!
# Refused calls are accounted for

A call that a schema refuses says by which, and its explanation accounts for
what that schema was held against: the list of the arguments, or the value that
the implementation gave. So it has a violation, and every violation points into
that list or value.
-/

set_option autoImplicit false

namespace CallContract

variable {σ : Type}

def CompiledArity.Refuses (a : CompiledArity σ) (output : Schema) (args : List Json) (state : σ)
    (s : Schema) (why : Explanation) : Direction → Prop
  | .input => s = a.input ∧ why.Accounts s (.arr args)
  | .output => s = output ∧ ∃ v, (a.implementation args state).result = .ok v ∧ why.Accounts s v

/-- Whatever was asked before, a request that is refused is refused by the arity that it is for,
with an explanation that accounts for the refusal. -/
def CompiledFunction.Explains (f : CompiledFunction σ) : Prop :=
  ∀ (earlier : List (Request × Bool × σ)) (request : Request) (enabled : Bool) (state : σ)
    (r : Run σ × CompiledFunction σ), (f.after earlier).answer request enabled state = some r →
    ∀ (direction : Direction) (s : Schema) (why : Explanation),
      r.1.result = .error (.invalid direction s why) → ∃ a, f.target? request = some a ∧
        a.Refuses f.signature.output request.args state s why direction

theorem ArityBody.invoke_refuses {b : ArityBody σ} {output : Schema} {decision : Decision}
    {config : Config} {types : Registry} {a : CompiledArity σ}
    (h : b.compile output decision config types = .ok a) (hi : a.input.check = .ok ())
    (ho : output.check = .ok ()) {enabled : Bool} {args : List Json} {state : σ}
    {direction : Direction} {s : Schema} {why : Explanation}
    (he : (a.invoke enabled args state).1.result = .error (.invalid direction s why)) :
    a.Refuses output args state s why direction := by
  rcases invoke_error h he with hr | hv | ⟨v, hr, hv⟩
  · rcases run_error hr with ⟨_, hrun⟩ | ⟨_, _, hrun⟩ <;> cases hrun
  · obtain ⟨hrefused, herror⟩ := (verdict_iff hi).mp hv
    cases herror
    exact ⟨rfl, Schema.accounts_of_refused hi hrefused⟩
  · obtain ⟨hrefused, herror⟩ := (verdict_iff ho).mp hv
    cases herror
    obtain ⟨-, himplementation, -⟩ := compile_ok h
    rw [← himplementation] at hr
    exact ⟨rfl, v, hr, Schema.accounts_of_refused ho hrefused⟩

theorem FunctionDef.explains {d : FunctionDef σ} {config : Config} {types : Registry}
    {f : CompiledFunction σ} (h : d.compile config types = .ok f) : f.Explains := by
  intro earlier request enabled state r hr direction s why hwhy
  have hanswer : f.dispatched (fun a args => (a.invoke enabled args state).1) state request =
      some r.1 := by
    rw [← CompiledFunction.answer_dispatched, ← CompiledFunction.answer_after f earlier, hr]
    rfl
  cases ht : f.target? request with
  | none =>
    rw [CompiledFunction.dispatched_none ht] at hanswer
    cases request with
    | call args =>
      rw [← Option.some.inj hanswer] at hwhy
      cases hwhy
    | invoke index args => cases hanswer
  | some a =>
    rw [CompiledFunction.dispatched_target ht] at hanswer
    rw [← Option.some.inj hanswer] at hwhy
    obtain ⟨hallow, b, -, hb⟩ := FunctionDef.compile_arity h (CompiledFunction.mem_of_target ht)
    obtain ⟨houtput, ho⟩ := FunctionDef.output_of_compile h
    refine ⟨a, rfl, ?_⟩
    rw [houtput]
    exact ArityBody.invoke_refuses hb (FunctionDef.allow_ok hallow).2 ho hwhy

/-- Every document that is a schema has an explainer that accounts for what it refuses and for
nothing else, and every compiled function accounts for the calls that it refuses. -/
theorem refusals_explained :
    (∀ s : Schema, s.check = .ok () → ∃ e, Explainer.build s = .ok e ∧ e.schema = s ∧ e.Explains) ∧
    ∀ {σ : Type} (d : FunctionDef σ) (config : Config) (types : Registry) (f : CompiledFunction σ),
      d.compile config types = .ok f → f.Explains := by
  constructor
  · intro s hs
    obtain ⟨e, he, hschema⟩ := Explainer.build_of_check hs
    subst hschema
    exact ⟨e, he, rfl, Explainer.explains hs⟩
  · intro σ d config types f h
    exact FunctionDef.explains h

def cellsSchema : Schema :=
  .obj [("properties", .obj [("a/b", .obj [("items", .obj [("type", .str "integer")])])])]

def badCells : Json := .obj [("a/b", .arr [.natural 1, .str "x"])]

def pairFunction : CompiledFunction Counters :=
  ⟨"pair", .always, ⟨Schema.any, .single 2 pairForm.input⟩, [pairArity]⟩

theorem pair_function_compile : pairDef.compile .enabled .empty = .ok pairFunction := by
  rw [pair_def_compile, FunctionDef.ordered, List.mergeSort_singleton]
  rfl

def badCellsText : String := "\x7b\"a/b\": [1, \"x\"]\x7d"

theorem refusals_explained_cells :
    (∃ v e why, Json.parse badCellsText = .ok v ∧ Explainer.build cellsSchema = .ok e ∧
      e.explain v = some why ∧ why.violations.map (·.instanceAt.text) = ["/a~1b/1"] ∧
      why.Accounts cellsSchema v ∧ ∀ w ∈ why.violations, ∃ x, v.at? w.instanceAt = some x) ∧
    ∃ why, (pairFunction.call true [.natural 5] fun _ => 0).1.result =
        .error (.invalid .input pairForm.input why) ∧
      why.Accounts pairForm.input (.arr [.natural 5]) := by
  obtain ⟨hschemas, hfunctions⟩ := refusals_explained
  constructor
  · obtain ⟨⟨schema, faultless⟩, he, hschema, hexplains⟩ := hschemas cellsSchema (by decide +kernel)
    cases hschema
    have hwhy : Explainer.explain ⟨cellsSchema, faultless⟩ badCells =
        some ⟨badCells, cellsSchema.violations badCells⟩ := rfl
    have hparse : Json.parse badCellsText = .ok badCells := by rfl
    have haccounts := hexplains.accounts badCells _ hwhy
    refine ⟨_, _, _, hparse, he, hwhy, by decide +kernel, haccounts, fun w hw => ?_⟩
    obtain ⟨x, hx, -⟩ := haccounts.located (Json.parse_ordered hparse) w hw
    exact ⟨x, hx⟩
  · obtain ⟨a, ha, hinput, haccounts⟩ := hfunctions pairDef .enabled .empty pairFunction
      pair_function_compile [] (.call [.natural 5]) true (fun _ => 0) _ rfl .input _ _ rfl
    cases ha
    exact ⟨_, rfl, haccounts⟩

end CallContract
