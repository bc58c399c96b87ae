import CallContract.Proofs.Function.Conditions
import CallContract.Proofs.Function.Dispatch
import CallContract.Proofs.Session.Hosted

/-!
# How often a body runs

Along a run of calls the body of an arity runs once for each request that is for
the arity and gets to the body, and for no other: neither a check nor a condition
runs it a second time or leaves it out. The runs are counted twice, as what the
answers report and as what the state of the bodies shows.
-/

set_option autoImplicit false

namespace CallContract

variable {σ : Type}

def Turn.leaves : Turn → Bool → Bool
  | .toggle enabled, _ => enabled
  | .request _, enabled => enabled

/-- A count in the state that a body raises by one and the other bodies of the function leave. -/
structure FunctionDef.Counts (d : FunctionDef σ) (b : ArityBody σ) (runs : σ → Nat) : Prop where
  own : ∀ args state, runs (b.body args state).2 = runs state + 1
  others : ∀ c ∈ d.arities, c ≠ b → ∀ args state, runs (c.body args state).2 = runs state

namespace CompiledFunction

def index? (f : CompiledFunction σ) : Request → Option Nat
  | .call args => f.position args.length
  | .invoke index _ => some index

theorem target_index (f : CompiledFunction σ) (request : Request) :
    f.target? request = (f.index? request).bind fun i => f.arities[i]? := by
  cases request <;> rfl

def bodyEvents (f : CompiledFunction σ) (i : Nat) : Turn → Session.Answer σ → Nat
  | .request asked, .ran _ trace => if f.index? asked = some i then trace.count .body else 0
  | _, _ => 0

/-- The runs of a body that a turn is due: one if it asks for the arity at the position and its
arguments get there. -/
def due (f : CompiledFunction σ) (i : Nat) (reached : Bool → List Json → Bool) (enabled : Bool) :
    Turn → Nat
  | .request asked =>
    if f.index? asked = some i ∧ reached enabled asked.args = true then 1 else 0
  | .toggle _ => 0

def totalDue (f : CompiledFunction σ) (i : Nat) (reached : Bool → List Json → Bool) :
    Bool → List Turn → Nat
  | _, [] => 0
  | enabled, t :: rest =>
    f.due i reached enabled t + f.totalDue i reached (t.leaves enabled) rest

end CompiledFunction

namespace ArityBody

variable {b : ArityBody σ} {args : List Json} {state : σ} {reached : Bool} {r : Run σ}
  {runs : σ → Nat}

theorem RanBody.counted (h : b.RanBody args state reached r)
    (hown : ∀ args state, runs (b.body args state).2 = runs state + 1) :
    runs r.state = runs state + if reached then 1 else 0 := by
  rw [h.2]
  cases reached with
  | true => exact hown args state
  | false => rfl

theorem RanBody.uncounted (h : b.RanBody args state reached r)
    (hother : ∀ args state, runs (b.body args state).2 = runs state) :
    runs r.state = runs state := by
  rw [h.2]
  cases reached with
  | true => exact hother args state
  | false => rfl

end ArityBody

namespace FunctionDef

variable {d : FunctionDef σ} {config : Config} {types : Registry} {f : CompiledFunction σ}

theorem invoke_ran_body (h : d.compile config types = .ok f) {b : ArityBody σ}
    {a : CompiledArity σ} (ha : a ∈ f.arities)
    (hb : b.compile d.output f.decision config types = .ok a) (enabled : Bool) (args : List Json)
    (state : σ) :
    b.RanBody args state (b.reached a.input (f.decision.checks enabled) config.assertions args)
      (a.invoke enabled args state).1 :=
  ArityBody.invoke_ran_body hb (allow_ok (compile_arity h ha).1).2 enabled args state

theorem body_ne_of_compile (h : d.compile config types = .ok f) {b c : ArityBody σ} {i j : Nat}
    {a a' : CompiledArity σ} (hij : j ≠ i) (hi : f.arities[i]? = some a)
    (hj : f.arities[j]? = some a') (hb : b.compile d.output f.decision config types = .ok a)
    (hc : c.compile d.output f.decision config types = .ok a') : c ≠ b := by
  rintro rfl
  obtain rfl := Except.ok.inj (hb.symm.trans hc)
  obtain ⟨hil, rfl⟩ := List.getElem?_eq_some_iff.mp hi
  obtain ⟨hjl, hsame⟩ := List.getElem?_eq_some_iff.mp hj
  have hasc := List.pairwise_iff_getElem.mp (ascending_of_compile h)
  rcases Nat.lt_or_gt_of_ne hij with hlt | hlt
  · have hself := hasc j i hjl hil hlt
    rw [hsame] at hself
    exact Nat.lt_irrefl _ hself
  · have hself := hasc i j hil hjl hlt
    rw [hsame] at hself
    exact Nat.lt_irrefl _ hself

end FunctionDef

namespace Session

variable {d : FunctionDef σ} {config : Config} {types : Registry} {f : CompiledFunction σ}
  {b : ArityBody σ} {i : Nat} {a : CompiledArity σ} {s : Session σ} {id : String}

/-- What one turn adds to both counts. -/
theorem body_step (h : d.compile config types = .ok f) (hi : f.arities[i]? = some a)
    (hb : b.compile d.output f.decision config types = .ok a) (hs : s.Keeps id f) (t : Turn) :
    let reached := fun enabled args =>
      b.reached a.input (f.decision.checks enabled) config.assertions args
    let r := s.step (t.step id)
    f.bodyEvents i t r.1 = f.due i reached s.enabled t ∧
      (∀ runs, d.Counts b runs → runs r.2.state = runs s.state + f.due i reached s.enabled t) ∧
      r.2.Keeps id f ∧ r.2.enabled = t.leaves s.enabled := by
  intro reached r
  cases t with
  | toggle enabled => exact ⟨rfl, fun _ _ => rfl, hs, rfl⟩
  | request asked =>
    obtain ⟨hanswer, hstate, henabled⟩ := step_kept hs asked
    rw [f.answer_dispatched] at hanswer hstate
    simp only [r, Turn.step]
    rw [← and_assoc]
    refine ⟨?_, keeps_request hs id asked, henabled⟩
    rw [hanswer, hstate]
    cases htarget : f.target? asked with
    | none =>
      -- no arity is asked for, so not the one at this position
      have hother : f.index? asked ≠ some i := by
        intro hindex
        rw [f.target_index, hindex, Option.bind_some, hi] at htarget
        cases htarget
      rw [CompiledFunction.dispatched_none htarget, CompiledFunction.due,
        if_neg fun hboth => hother hboth.1]
      cases asked with
      | call args => exact ⟨if_neg hother, fun _ _ => rfl⟩
      | invoke index args => exact ⟨rfl, fun _ _ => rfl⟩
    | some a' =>
      rw [CompiledFunction.dispatched_target htarget]
      have hmem := CompiledFunction.mem_of_target htarget
      obtain ⟨-, c, hc, hcompile⟩ := FunctionDef.compile_arity h hmem
      rw [f.target_index] at htarget
      obtain ⟨j, hindex, hj⟩ := Option.bind_eq_some_iff.mp htarget
      simp only [reported, stateAfter, CompiledFunction.bodyEvents, CompiledFunction.due, hindex,
        Option.some.injEq]
      by_cases hji : j = i
      · subst hji
        obtain rfl := Option.some.inj (hi.symm.trans hj)
        have hran := FunctionDef.invoke_ran_body h hmem hb s.enabled asked.args s.state
        simp only [true_and, if_true]
        exact ⟨hran.1, fun runs hruns => hran.counted hruns.own⟩
      · have hran := FunctionDef.invoke_ran_body h hmem hcompile s.enabled asked.args s.state
        have hne := FunctionDef.body_ne_of_compile h hji hi hj hb hcompile
        simp only [hji, false_and, if_false]
        exact ⟨trivial, fun runs hruns => hran.uncounted (hruns.others c hc hne)⟩

/-- What the turns of a run add to both counts. -/
theorem body_run (h : d.compile config types = .ok f) (hi : f.arities[i]? = some a)
    (hb : b.compile d.output f.decision config types = .ok a) (hs : s.Keeps id f)
    (turns : List Turn) :
    let reached := fun enabled args =>
      b.reached a.input (f.decision.checks enabled) config.assertions args
    let run := s.run (turns.map (·.step id))
    (List.zipWith (f.bodyEvents i) turns run.1).sum = f.totalDue i reached s.enabled turns ∧
      ∀ runs, d.Counts b runs →
        runs run.2.state = runs s.state + f.totalDue i reached s.enabled turns := by
  intro reached run
  induction turns generalizing s with
  | nil => exact ⟨rfl, fun _ _ => rfl⟩
  | cons t rest ih =>
    obtain ⟨hevents, hcounts, hkeeps, henabled⟩ := body_step h hi hb hs t
    obtain ⟨hmore, hthen⟩ := ih hkeeps
    rw [henabled] at hmore hthen
    refine ⟨?_, fun runs hruns => ?_⟩
    · rw [CompiledFunction.totalDue, ← hmore, ← hevents]
      rfl
    · rw [CompiledFunction.totalDue, ← Nat.add_assoc, ← hcounts runs hruns, ← hthen runs hruns]
      rfl

end Session

/-- A run tries the conditions that are compiled in around one run of the body; so the body of an
arity runs, along any turns, as often as requests for the arity get there. -/
theorem FunctionDef.bodies_run (d : FunctionDef σ) (config : Config) (types : Registry) :
    (∀ (b : ArityBody σ) (output : Schema) (decision : Decision) (a : CompiledArity σ),
      b.compile output decision config types = .ok a → ∀ (args : List Json) (state : σ),
        (config.assertions = true → ∀ run : Run σ,
          b.Conducted args state run ↔ run = a.implementation args state) ∧
        (config.assertions = false → a.implementation args state = b.runBody args state)) ∧
    ∀ f, d.compile config types = .ok f → ∀ b ∈ d.arities, ∃ i a, f.arities[i]? = some a ∧
      b.compile d.output f.decision config types = .ok a ∧
      ∀ (s : Session σ) (id : String), s.Keeps id f → ∀ turns : List Turn,
        let run := s.run (turns.map (·.step id))
        let reached := fun enabled args =>
          b.reached a.input (f.decision.checks enabled) config.assertions args
        let due := f.totalDue i reached s.enabled turns
        (List.zipWith (f.bodyEvents i) turns run.1).sum = due ∧
          ∀ runs, d.Counts b runs → runs run.2.state = runs s.state + due := by
  refine ⟨fun b output decision a h args state => ?_, fun f h b hb => ?_⟩
  · rw [(ArityBody.compile_ok h).2.1]
    refine ⟨fun hon run => ?_, fun hoff => ?_⟩
    · rw [hon]
      exact ArityBody.conducted_iff
    · rw [hoff]
      rfl
  · obtain ⟨a, ha, hcompile⟩ := arity_of_compile h hb
    obtain ⟨i, hi⟩ := List.getElem?_of_mem ha
    exact ⟨i, a, hi, hcompile, fun s id hs turns => Session.body_run h hi hcompile hs turns⟩

def onceBody : ArityBody Counters :=
  ⟨countingBody.slots, countingBody.body, [Test.precondition (.positive 0) "positive"],
    [Test.postcondition (.result (.natural 1)) "first"]⟩

def onceArity : CompiledArity Counters :=
  ⟨countingForm, onceBody.run true, .ofDecision countingForm.input Schema.any .conditional⟩

def onceDef : FunctionDef Counters := ⟨"once", Schema.any, ⟨false, false⟩, [onceBody]⟩

def onceFunction : CompiledFunction Counters :=
  ⟨"once", .conditional, ⟨Schema.any, .single 1 countingForm.input⟩, [onceArity]⟩

theorem once_def_compile : onceDef.compile .enabled .empty = .ok onceFunction := by
  have hform : ArgumentForm.build .empty onceBody.slots = .ok countingForm := by cbv
  have ha : onceDef.compileArities .conditional .enabled .empty onceDef.arities =
      .ok [onceArity] := by
    refine FunctionDef.compile_arities_cons ?_ rfl rfl
    rw [ArityBody.compile, hform]
    rfl
  rw [FunctionDef.compile_of_arities (by simp [onceDef]) rfl rfl ha rfl, FunctionDef.ordered,
    List.mergeSort_singleton]
  rfl

theorem bodies_run_thrice :
    let s := ((Session.start .enabled none fun _ => 0).step (.compile "f" onceDef false)).2
    let turns : List Turn := [.request (.call [.natural 5]), .request (.call [.null]),
      .request (.call [.num (.int (-1))]), .request (.call [.natural 7]), .toggle false,
      .request (.invoke 0 [.natural 2]), .request (.call [])]
    (s.run (turns.map (·.step "f"))).2.state 0 = 3 := by
  intro s turns
  obtain ⟨i, a, hi, -, hruns⟩ := (FunctionDef.bodies_run onceDef .enabled .empty).2 _
    once_def_compile onceBody (List.mem_singleton.mpr rfl)
  obtain rfl : i = 0 := Nat.lt_one_iff.mp (List.getElem?_eq_some_iff.mp hi).1
  obtain rfl : onceArity = a := Option.some.inj hi
  have hcounts : onceDef.Counts onceBody fun state : Counters => state 0 :=
    ⟨fun args state => rfl, fun c hc hne => absurd (List.mem_singleton.mp hc) hne⟩
  have hs : s = { Session.start .enabled none fun _ => 0 with
      functions := [("f", onceFunction)] } := Session.step_compile once_def_compile
  have hdue : onceFunction.totalDue 0 (fun enabled args =>
      onceBody.reached onceArity.input (onceFunction.decision.checks enabled)
        Config.enabled.assertions args) s.enabled turns = 3 := by
    rw [hs]
    decide +kernel
  have hstate := (hruns s "f" (Session.keeps_of_lookup (by rw [hs]; rfl)) turns).2 _ hcounts
  rw [hdue] at hstate
  rw [hstate, hs]
  rfl

end CallContract
