import CallContract.Proofs.Function.Compile
import CallContract.Proofs.Function.Request

/-!
# Twins of a function

One definition is compiled without a tag, as always validated and as never
validated. Each of the three has a body state of its own, a lane. They have the
same arities and differ in when a call is checked: the untagged twin while the
toggle is on, the others always and never.
-/

set_option autoImplicit false

namespace CallContract

inductive Twin where
  | untagged
  | always
  | never
  deriving DecidableEq

namespace Twin

def tags : Twin → Tags
  | .untagged => ⟨false, false⟩
  | .always => ⟨false, true⟩
  | .never => ⟨true, false⟩

def decision : Twin → Decision
  | .untagged => .conditional
  | .always => .always
  | .never => .off

def checks : Twin → (enabled : Bool) → Bool
  | .untagged, enabled => enabled
  | .always, _ => true
  | .never, _ => false

theorem decide_tags (t : Twin) : Decision.decide t.tags .enabled = .ok t.decision := by
  cases t <;> rfl

end Twin

abbrev Lanes (τ : Type) := Twin → τ

namespace Lanes

variable {τ : Type}

def set (lanes : Lanes τ) (t : Twin) (state : τ) : Lanes τ :=
  fun u => if u = t then state else lanes u

@[simp] theorem set_same (lanes : Lanes τ) (t : Twin) (state : τ) : lanes.set t state t = state :=
  if_pos rfl

theorem set_other (lanes : Lanes τ) {t u : Twin} (h : u ≠ t) (state : τ) :
    lanes.set t state u = lanes u :=
  if_neg h

@[simp] theorem set_self (lanes : Lanes τ) (t : Twin) : lanes.set t (lanes t) = lanes := by
  funext u
  unfold set
  split
  · rename_i h
    rw [h]
  · rfl

@[simp] theorem set_set (lanes : Lanes τ) (t : Twin) (state state' : τ) :
    (lanes.set t state).set t state' = lanes.set t state' := by
  funext u
  unfold set
  split <;> rfl

end Lanes

variable {τ : Type}

def Run.inLane (t : Twin) (lanes : Lanes τ) (r : Run τ) : Run (Lanes τ) :=
  ⟨r.result, r.trace, lanes.set t r.state⟩

theorem Run.and_then_in_lane {t : Twin} {lanes : Lanes τ} {r : Run τ} {next : Json → τ → Run τ}
    {next' : Json → Lanes τ → Run (Lanes τ)}
    (h : ∀ v state, next' v (lanes.set t state) = (next v state).inLane t (lanes.set t state)) :
    (r.inLane t lanes).andThen next' = (r.andThen next).inLane t lanes := by
  cases hr : r.result with
  | error e => simp [andThen, inLane, hr]
  | ok v => simp [andThen, inLane, hr, h]

theorem Wrapper.judged_in_lane (t : Twin) (lanes : Lanes τ) (output : Schema) (r : Run τ) :
    judged output (r.inLane t lanes) = (judged output r).inLane t lanes := by
  rcases r with ⟨e | v, trace, state⟩
  · rfl
  · simp only [judged, Run.inLane]
    cases verdict .output output v <;> rfl

namespace ArityBody

def inLane (t : Twin) (b : ArityBody τ) : ArityBody (Lanes τ) :=
  { slots := b.slots
    body := fun args lanes =>
      let r := b.body args (lanes t)
      (r.1, lanes.set t r.2)
    pre := b.pre
    post := b.post }

theorem run_body_in_lane (t : Twin) (b : ArityBody τ) (args : List Json) (lanes : Lanes τ) :
    (b.inLane t).runBody args lanes = (b.runBody args (lanes t)).inLane t lanes := by
  simp only [runBody, inLane]
  cases b.body args (lanes t) with
  | mk result state => cases result <;> rfl

theorem run_pre_in_lane (t : Twin) (b : ArityBody τ) (args : List Json) (lanes : Lanes τ) :
    (b.inLane t).runPre args lanes = (b.runPre args (lanes t)).inLane t lanes := by
  simp only [runPre, inLane]
  cases firstFailing b.pre args with
  | mk tried failed => cases failed <;> simp [Run.inLane]

theorem run_post_in_lane (t : Twin) (b : ArityBody τ) (args : List Json) (v : Json)
    (lanes : Lanes τ) :
    (b.inLane t).runPost args v lanes = (b.runPost args v (lanes t)).inLane t lanes := by
  simp only [runPost, inLane]
  split <;> simp [Run.inLane]

theorem run_in_lane (t : Twin) (b : ArityBody τ) (assertions : Bool) (args : List Json)
    (lanes : Lanes τ) :
    (b.inLane t).run assertions args lanes = (b.run assertions args (lanes t)).inLane t lanes := by
  cases assertions with
  | false => exact b.run_body_in_lane t args lanes
  | true =>
    simp only [run, if_true]
    rw [run_pre_in_lane, Run.and_then_in_lane, Run.and_then_in_lane]
    · intro v state
      rw [run_post_in_lane, Lanes.set_same]
    · intro _ state
      rw [run_body_in_lane, Lanes.set_same]

end ArityBody

def FunctionDef.twin (t : Twin) (d : FunctionDef τ) : FunctionDef (Lanes τ) :=
  ⟨d.name, d.output, t.tags, d.arities.map (·.inLane t)⟩

namespace CompiledArity

def twin (t : Twin) (output : Schema) (a : CompiledArity τ) : CompiledArity (Lanes τ) :=
  { form := a.form
    implementation := fun args lanes => (a.implementation args (lanes t)).inLane t lanes
    wrapper := .ofDecision a.input output t.decision }

def outcome (a : CompiledArity τ) (output : Schema) (checked : Bool) (args : List Json)
    (state : τ) : Run τ :=
  if checked then Wrapper.guarded a.input output a.implementation args state
  else a.implementation args state

theorem guarded_twin (t : Twin) (output : Schema) (a : CompiledArity τ) (args : List Json)
    (lanes : Lanes τ) :
    Wrapper.guarded a.input output (a.twin t output).implementation args lanes =
      (a.outcome output true args (lanes t)).inLane t lanes := by
  simp only [outcome, if_true, Wrapper.guarded]
  cases verdict .input a.input (.arr args) with
  | some e => simp [Run.inLane]
  | none => exact Wrapper.judged_in_lane t lanes output _

theorem invoke_twin (t : Twin) (output : Schema) (a : CompiledArity τ) (enabled : Bool)
    (args : List Json) (lanes : Lanes τ) :
    ((a.twin t output).invoke enabled args lanes).1 =
      (a.outcome output (t.checks enabled) args (lanes t)).inLane t lanes := by
  cases t with
  | never => rfl
  | always =>
    rw [Twin.checks, ← guarded_twin]
    exact Wrapper.call_checking true _ _ _ _ _ _
  | untagged =>
    have hcall := Wrapper.call_checking false (.new a.input) (.new output)
      (a.twin .untagged output).implementation enabled args lanes
    cases enabled with
    | false => exact hcall
    | true =>
      rw [Twin.checks, ← guarded_twin]
      exact hcall

end CompiledArity

theorem ArityBody.compile_in_lane (t : Twin) {b : ArityBody τ} {output : Schema}
    {decision : Decision} {config : Config} {types : Registry} {a : CompiledArity τ}
    (h : b.compile output decision config types = .ok a) :
    (b.inLane t).compile output t.decision config types = .ok (a.twin t output) := by
  obtain ⟨hf, hi, -⟩ := compile_ok h
  have himp : (b.inLane t).run config.assertions = (a.twin t output).implementation := by
    funext args lanes
    rw [run_in_lane]
    exact congrArg (fun run => (run args (lanes t)).inLane t lanes) hi.symm
  unfold compile
  rw [himp]
  exact bind_ok.mpr ⟨a.form, hf, rfl⟩

namespace CompiledFunction

def twin (t : Twin) (output : Schema) (f : CompiledFunction τ) : CompiledFunction (Lanes τ) :=
  ⟨f.name, t.decision, f.signature, f.arities.map (·.twin t output)⟩

def outcome (f : CompiledFunction τ) (output : Schema) (checked : Bool) (request : Request)
    (state : τ) : Option (Run τ) :=
  f.dispatched (fun a args => a.outcome output checked args state) state request

/-- A twin answers from its own lane, and leaves the other lanes as they are. -/
theorem answer_twin (t : Twin) (output : Schema) (f : CompiledFunction τ) (request : Request)
    (enabled : Bool) (lanes : Lanes τ) :
    ((f.twin t output).answer request enabled lanes).map (·.1) =
      (f.outcome output (t.checks enabled) request (lanes t)).map (·.inLane t lanes) := by
  have hn : (f.twin t output).name = f.name := rfl
  have ha : (f.twin t output).arities = f.arities.map (·.twin t output) := rfl
  rw [answer_dispatched, dispatched_map hn ha fun _ => rfl, outcome, dispatched_comp]
  · exact dispatched_congr (fun a _ args => a.invoke_twin t output enabled args lanes) lanes request
  · intro e
    simp [Run.inLane]

end CompiledFunction

namespace FunctionDef

variable {d : FunctionDef τ} {types : Registry}

theorem compile_arities_twin (t : Twin) {decision : Decision} {config : Config}
    {bodies : List (ArityBody τ)} {arities : List (CompiledArity τ)}
    (h : d.compileArities decision config types bodies = .ok arities) :
    (d.twin t).compileArities t.decision config types (bodies.map (·.inLane t)) =
      .ok (arities.map (·.twin t d.output)) := by
  induction bodies generalizing arities with
  | nil =>
    cases h
    rfl
  | cons b rest ih =>
    obtain ⟨a, more, hb, hallow, hmore, rfl⟩ := compile_arities_uncons h
    refine compile_arities_cons (ArityBody.compile_in_lane t hb) ?_ (ih hmore)
    unfold allow at hallow ⊢
    rw [twin, List.length_map]
    exact hallow

/-- Where an untagged function compiles, its twins do. -/
theorem compile_twin (t : Twin) {f : CompiledFunction τ} (h : d.compile .enabled types = .ok f) :
    (d.twin t).compile .enabled types = .ok (f.twin t d.output) := by
  obtain ⟨arities, -, ho, ha, hs, hf, hname, hne⟩ := compile_ok h
  have hinputs : (arities.map (·.twin t d.output)).map (·.input) = arities.map (·.input) := by
    rw [List.map_map]
    rfl
  have hsorted : ordered (arities.map (·.twin t d.output)) =
      (ordered arities).map (·.twin t d.output) :=
    (List.map_mergeSort (f := CompiledArity.twin t d.output) fun _ _ _ _ => rfl).symm
  have hsome : (d.twin t).arities ≠ [] := fun he => hne (List.map_eq_nil_iff.mp he)
  have hcompile := compile_of_arities hsome t.decide_tags ho (compile_arities_twin t ha)
    (hinputs ▸ hs)
  rw [hcompile, hsorted, ← hf, CompiledFunction.twin, hname]
  rfl

end FunctionDef

end CallContract
