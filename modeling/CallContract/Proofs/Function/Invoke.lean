import CallContract.Proofs.Argument.Form
import CallContract.Proofs.Function.Compile

/-!
# Calls keep to what the slots demand

An arity of a function that is always validated lets an argument list through
to its implementation exactly if the list meets what the declared slots demand.
Any other list is refused before anything runs.
-/

set_option autoImplicit false

namespace CallContract

variable {σ : Type}

def Run.RefusedInput (r : Run σ) : Prop := ∃ s why, r.result = .error (.invalid .input s why)

namespace Wrapper

theorem judged_passes {b : ArityBody σ} {assertions : Bool} (output : Schema) (args : List Json)
    (state : σ) : ¬(judged output (b.run assertions args state)).RefusedInput := by
  rintro ⟨s, why, h⟩
  rcases judged_cases h with hr | ⟨v, -, hv⟩
  · rcases ArityBody.run_error hr with ⟨_, he⟩ | ⟨_, _, he⟩ <;> cases he
  · rcases verdict_cases hv with ⟨_, he⟩ | ⟨_, he⟩ <;> cases he

end Wrapper

/-- A call of an arity that is always validated gets past its input schema exactly if the arguments
meet the demand of the slots. No declared schema has a key twice, as none that is read from text
has (`Schema.nodup_of_parse`). -/
theorem invoke_passes_iff_met {d : FunctionDef σ} {config : Config} {types : Registry}
    {f : CompiledFunction σ} (h : d.compile config types = .ok f) (hd : f.decision = .always)
    {a : CompiledArity σ} (ha : a ∈ f.arities) :
    ∃ b ∈ d.arities, b.compile d.output .always config types = .ok a ∧
      ∃ demand, Slot.demand? types b.slots = some demand ∧
        demand.regular.length = a.arity ∧ demand.tail.isSome = a.isVariadic ∧
        (demand.SelfContained → (∀ slot ∈ b.slots, ∀ s ∈ slot.schema? types, s.keys.Nodup) →
          ∀ (earlier : List (Call σ)) (enabled : Bool) (args : List Json) (state : σ),
            let run := ((a.after earlier).invoke enabled args state).1
            (¬run.RefusedInput ↔ demand.Met args) ∧
            (demand.Met args →
              run = Wrapper.judged d.output (b.run config.assertions args state)) ∧
            (¬demand.Met args →
              run = ⟨.error (.invalid .input a.input
                ⟨.arr args, a.input.violations (.arr args)⟩), [], state⟩)) := by
  obtain ⟨hallow, b, hb, hc⟩ := FunctionDef.compile_arity h ha
  rw [hd] at hc
  have hcheck := (FunctionDef.allow_ok hallow).2
  obtain ⟨hform, -, -⟩ := ArityBody.compile_ok hc
  obtain ⟨demand, hdemand, hregular, htail, -⟩ := ArgumentForm.build_demand hform
  refine ⟨b, hb, hc, demand, hdemand, ?_, htail, ?_⟩
  · rw [hregular, List.length_map]
    rfl
  · intro hs hk earlier enabled args state run
    have haccepts : a.input.accepts (.arr args) = true ↔ demand.Met args :=
      ArgumentForm.accepts_demand hform hdemand hk hcheck hs args
    have hrun : run = Wrapper.guarded a.input d.output (b.run config.assertions) args state :=
      ArityBody.invoke_checking hc earlier (.inl rfl) args state
    have hmet (hm : demand.Met args) :
        run = Wrapper.judged d.output (b.run config.assertions args state) := by
      rw [hrun, Wrapper.guarded, verdict_accepted hcheck (haccepts.mpr hm)]
    have hunmet (hm : ¬demand.Met args) :
        run = ⟨.error (.invalid .input a.input
          ⟨.arr args, a.input.violations (.arr args)⟩), [], state⟩ := by
      have hrefused := Bool.eq_false_iff.mpr fun ht => hm (haccepts.mp ht)
      rw [hrun, Wrapper.guarded, verdict_refused hcheck hrefused]
    refine ⟨⟨fun hp => ?_, fun hm => ?_⟩, hmet, hunmet⟩
    · by_cases hm : demand.Met args
      · exact hm
      · rw [hunmet hm] at hp
        exact absurd ⟨_, _, rfl⟩ hp
    · rw [hmet hm]
      exact Wrapper.judged_passes d.output args state

def pairBody : ArityBody Counters :=
  ⟨[.named "x" (.schema (.obj [("type", .str "integer")])) .regular,
    .nested [.named "y" (.schema (.obj [("type", .str "string")])) .regular] .none .rest],
    .count, [], []⟩

def pairDef : FunctionDef Counters := ⟨"pair", Schema.any, ⟨false, true⟩, [pairBody]⟩

def pairForm : ArgumentForm :=
  let integer : Schema := .obj [("type", .str "integer")]
  let text : Schema := .obj [("type", .str "string")]
  ⟨[⟨"x", integer, 0, .regular⟩], some ⟨"arg1", Schema.any, 1, .rest⟩,
    Schema.boundedArray [Schema.titled "x" integer, Schema.titled "y" text] (.bool false) 2 none⟩

def pairArity : CompiledArity Counters :=
  ⟨pairForm, pairBody.run true, .ofDecision pairForm.input Schema.any .always⟩

def pairDemand : Demand :=
  let text : Schema := .obj [("type", .str "string")]
  ⟨[.obj [("type", .str "integer")]],
    some (Schema.boundedArray [Schema.titled "y" text] (.bool false) 1 none)⟩

theorem pair_body_compile :
    pairBody.compile Schema.any .always .enabled .empty = .ok pairArity := by
  have h : ArgumentForm.build .empty pairBody.slots = .ok pairForm := by cbv
  rw [ArityBody.compile, h]
  rfl

theorem pair_def_compile : pairDef.compile .enabled .empty =
    .ok ⟨"pair", .always, ⟨Schema.any, .single 2 pairForm.input⟩,
      FunctionDef.ordered [pairArity]⟩ := by
  have ha : pairDef.compileArities .always .enabled .empty [pairBody] = .ok [pairArity] :=
    FunctionDef.compile_arities_cons pair_body_compile rfl rfl
  exact FunctionDef.compile_of_arities (by simp [pairDef]) rfl rfl ha rfl

theorem pair_body_demand : Slot.demand? .empty pairBody.slots = some pairDemand := by cbv

theorem pair_demand_met (args : List Json) :
    pairDemand.Met (.natural 5 :: args) ↔
      Schema.accepts (Schema.boundedArray [Schema.titled "y" (.obj [("type", .str "string")])]
        (.bool false) 1 none) (.arr args) = true := by
  constructor
  · intro h
    exact h.2.2
  · intro h
    refine ⟨fun i s x hs hx => ?_, by simp [pairDemand], h⟩
    cases i with
    | zero =>
      cases hs
      cases hx
      rfl
    | succ i => cases hs

theorem invoke_passes_iff_met_pair :
    let run := fun args => (pairArity.invoke true args fun _ => 0).1
    (run [.natural 5, .str "a"]).result = .ok (.natural 2) ∧
    (run [.natural 5]).RefusedInput ∧ (run [.natural 5, .str "a", .str "b"]).RefusedInput := by
  intro run
  obtain ⟨b, hb, -, demand, hd, -, -, h⟩ := invoke_passes_iff_met pair_def_compile rfl
    (a := pairArity) (List.mem_mergeSort.mpr (by simp))
  obtain rfl := List.mem_singleton.mp hb
  obtain rfl := Option.some.inj (pair_body_demand.symm.trans hd)
  have h := h ⟨by simp [pairDemand]; rfl, by simp [pairDemand]; rfl⟩
    (by simp [pairBody, Slot.schema?, Slot.typing, Schema.keys, Schema.any]) []
  obtain ⟨-, hmet, -⟩ := h true [.natural 5, .str "a"] fun _ => 0
  obtain ⟨-, -, hnone⟩ := h true [.natural 5] fun _ => 0
  obtain ⟨-, -, htwo⟩ := h true [.natural 5, .str "a", .str "b"] fun _ => 0
  refine ⟨?_, ⟨_, _, congrArg Run.result (hnone ?_)⟩, ⟨_, _, congrArg Run.result (htwo ?_)⟩⟩
  · exact congrArg Run.result (hmet ((pair_demand_met _).mpr rfl))
  · intro hm
    cases (pair_demand_met _).mp hm
  · intro hm
    cases (pair_demand_met _).mp hm

end CallContract
