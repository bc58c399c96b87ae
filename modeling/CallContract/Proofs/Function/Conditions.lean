import CallContract.Proofs.Function.Failure

/-!
# A body between its conditions

A run tries the preconditions in order up to the first that fails, runs the body
once if none does, and then tries the postconditions in the same way on what the
body gave. Where conditions are not compiled in, the body runs alone. What a run
comes to is told here case by case, with what was tried; whatever the case, the
body runs once if the arguments get there, and else not at all.
-/

set_option autoImplicit false

namespace CallContract

variable {σ : Type}

theorem first_unmet {α : Type} (p : α → Bool) (cs : List α) :
    (∀ c ∈ cs, p c = true) ∨
      ∃ met c rest, cs = met ++ c :: rest ∧ (∀ x ∈ met, p x = true) ∧ p c = false := by
  cases hfind : cs.find? (fun c => !p c) with
  | none =>
    left
    intro c hc
    simpa using List.find?_eq_none.mp hfind c hc
  | some c =>
    obtain ⟨hc, met, rest, hcs, hmet⟩ := List.find?_eq_some_iff_append.mp hfind
    exact .inr ⟨met, c, rest, hcs, fun x hx => by simpa using hmet x hx, by simpa using hc⟩

theorem first_failing_met {cs : List Precondition} {args : List Json}
    (h : ∀ c ∈ cs, c.holds args = true) :
    firstFailing cs args = (cs.map (·.description), none) := by
  induction cs with
  | nil => rfl
  | cons c rest ih =>
    rw [firstFailing, if_pos (h c (by simp)), ih fun x hx => h x (by simp [hx])]
    rfl

theorem first_failing_unmet {met : List Precondition} {c : Precondition} {args : List Json}
    (hmet : ∀ p ∈ met, p.holds args = true) (hc : c.holds args = false)
    (rest : List Precondition) : firstFailing (met ++ c :: rest) args =
      ((met ++ [c]).map (·.description), some c.description) := by
  induction met with
  | nil => simp [firstFailing, hc]
  | cons p met ih =>
    rw [List.cons_append, firstFailing, if_pos (hmet p (by simp)),
      ih fun x hx => hmet x (by simp [hx])]
    rfl

namespace ArityBody

/-- What a run of a body between its conditions comes to. -/
inductive Conducted (b : ArityBody σ) (args : List Json) (state : σ) : Run σ → Prop where
  /-- A precondition fails: those up to it were tried, and nothing is run or changed. -/
  | refused {met rest : List Precondition} {c : Precondition} (hpre : b.pre = met ++ c :: rest)
      (hmet : ∀ p ∈ met, p.holds args = true) (hc : c.holds args = false) :
      Conducted b args state ⟨.error (.condition .pre c.description),
        (met ++ [c]).map fun p => .pre p.description, state⟩
  | failed {cause : String} {after : σ} (hpre : ∀ p ∈ b.pre, p.holds args = true)
      (hbody : b.body args state = (.error cause, after)) :
      Conducted b args state ⟨.error (.body cause),
        (b.pre.map fun p => Event.pre p.description) ++ [Event.body], after⟩
  /-- A postcondition fails: those up to it were tried on what the body gave. -/
  | broken {v : Json} {after : σ} {met rest : List Postcondition} {c : Postcondition}
      (hpre : ∀ p ∈ b.pre, p.holds args = true) (hbody : b.body args state = (.ok v, after))
      (hpost : b.post = met ++ c :: rest) (hmet : ∀ p ∈ met, p.holds args v = true)
      (hc : c.holds args v = false) :
      Conducted b args state ⟨.error (.condition .post c.description),
        (b.pre.map fun p => Event.pre p.description) ++ [Event.body]
          ++ (met ++ [c]).map fun p => Event.post p.description, after⟩
  | finished {v : Json} {after : σ} (hpre : ∀ p ∈ b.pre, p.holds args = true)
      (hbody : b.body args state = (.ok v, after)) (hpost : ∀ p ∈ b.post, p.holds args v = true) :
      Conducted b args state ⟨.ok v, (b.pre.map fun p => Event.pre p.description) ++ [Event.body]
        ++ b.post.map fun p => Event.post p.description, after⟩

variable {b : ArityBody σ} {args : List Json} {state after : σ} {v : Json}

theorem run_pre_met (h : ∀ p ∈ b.pre, p.holds args = true) :
    b.runPre args state = ⟨.ok .null, b.pre.map fun p => .pre p.description, state⟩ := by
  rw [runPre, first_failing_met h]
  simp

theorem run_pre_unmet {met rest : List Precondition} {c : Precondition}
    (hpre : b.pre = met ++ c :: rest) (hmet : ∀ p ∈ met, p.holds args = true)
    (hc : c.holds args = false) : b.runPre args state =
      ⟨.error (.condition .pre c.description), (met ++ [c]).map fun p => .pre p.description,
        state⟩ := by
  rw [runPre, hpre, first_failing_unmet hmet hc]
  simp

theorem run_post_met (h : ∀ p ∈ b.post, p.holds args v = true) :
    b.runPost args v state = ⟨.ok v, b.post.map fun p => .post p.description, state⟩ := by
  rw [runPost, first_failing_met (by simpa using h)]
  simp

theorem run_post_unmet {met rest : List Postcondition} {c : Postcondition}
    (hpost : b.post = met ++ c :: rest) (hmet : ∀ p ∈ met, p.holds args v = true)
    (hc : c.holds args v = false) : b.runPost args v state =
      ⟨.error (.condition .post c.description), (met ++ [c]).map fun p => .post p.description,
        state⟩ := by
  rw [runPost, hpost, List.map_append, List.map_cons,
    first_failing_unmet (by simpa using hmet) (by simpa using hc)]
  simp

theorem run_body_error {cause : String} (h : b.body args state = (.error cause, after)) :
    b.runBody args state = ⟨.error (.body cause), [.body], after⟩ := by
  rw [runBody, h]

theorem run_body_ok (h : b.body args state = (.ok v, after)) :
    b.runBody args state = ⟨.ok v, [.body], after⟩ := by
  rw [runBody, h]

theorem Conducted.run_eq {r : Run σ} (h : b.Conducted args state r) :
    r = b.run true args state := by
  rw [ArityBody.run, if_pos rfl]
  cases h with
  | refused hpre hmet hc =>
    rw [run_pre_unmet hpre hmet hc]
    rfl
  | failed hpre hbody =>
    rw [run_pre_met hpre]
    dsimp only [Run.andThen]
    rw [run_body_error hbody]
  | broken hpre hbody hpost hmet hc =>
    rw [run_pre_met hpre]
    dsimp only [Run.andThen]
    rw [run_body_ok hbody]
    dsimp only
    rw [run_post_unmet hpost hmet hc]
  | finished hpre hbody hpost =>
    rw [run_pre_met hpre]
    dsimp only [Run.andThen]
    rw [run_body_ok hbody]
    dsimp only
    rw [run_post_met hpost]

theorem conducted_exists (b : ArityBody σ) (args : List Json) (state : σ) :
    ∃ r, b.Conducted args state r := by
  rcases first_unmet (·.holds args) b.pre with hpre | ⟨met, c, rest, hpre, hmet, hc⟩
  · cases hbody : b.body args state with
    | mk result after =>
      cases result with
      | error cause => exact ⟨_, .failed hpre hbody⟩
      | ok v =>
        rcases first_unmet (·.holds args v) b.post with hpost | ⟨met, c, rest, hpost, hmet, hc⟩
        · exact ⟨_, .finished hpre hbody hpost⟩
        · exact ⟨_, .broken hpre hbody hpost hmet hc⟩
  · exact ⟨_, .refused hpre hmet hc⟩

/-- A run with conditions comes to exactly one of the cases. -/
theorem conducted_iff {r : Run σ} : b.Conducted args state r ↔ r = b.run true args state := by
  refine ⟨Conducted.run_eq, ?_⟩
  rintro rfl
  obtain ⟨r, hr⟩ := conducted_exists b args state
  exact hr.run_eq ▸ hr

/-- A run has run the body once, on these arguments and this state, or not at all. -/
def RanBody (b : ArityBody σ) (args : List Json) (state : σ) (reached : Bool) (r : Run σ) : Prop :=
  r.trace.count .body = (if reached then 1 else 0) ∧
    r.state = if reached then (b.body args state).2 else state

theorem count_pre (cs : List Precondition) :
    (cs.map fun p => Event.pre p.description).count .body = 0 :=
  List.count_eq_zero.mpr fun h => by simp at h

theorem count_post (cs : List Postcondition) :
    (cs.map fun p => Event.post p.description).count .body = 0 :=
  List.count_eq_zero.mpr fun h => by simp at h

theorem Conducted.ran_body {r : Run σ} (h : b.Conducted args state r) :
    b.RanBody args state (b.pre.all (·.holds args)) r := by
  cases h with
  | refused hpre hmet hc =>
    have hall : b.pre.all (·.holds args) = false := by
      simp [hpre, hc]
    rw [RanBody, hall]
    exact ⟨count_pre _, rfl⟩
  | failed hpre hbody =>
    rw [RanBody, List.all_eq_true.mpr hpre, hbody]
    simp [count_pre]
  | broken hpre hbody hpost hmet hc =>
    rw [RanBody, List.all_eq_true.mpr hpre, hbody]
    simp only [List.count_append, count_pre, count_post]
    simp
  | finished hpre hbody hpost =>
    rw [RanBody, List.all_eq_true.mpr hpre, hbody]
    simp only [List.count_append, count_pre, count_post]
    simp

theorem run_body_ran_body (b : ArityBody σ) (args : List Json) (state : σ) :
    b.RanBody args state true (b.runBody args state) := by
  cases hbody : b.body args state with
  | mk result after =>
    cases result with
    | ok v =>
      rw [run_body_ok hbody, RanBody, hbody]
      exact ⟨rfl, rfl⟩
    | error cause =>
      rw [run_body_error hbody, RanBody, hbody]
      exact ⟨rfl, rfl⟩

theorem run_ran_body (b : ArityBody σ) (assertions : Bool) (args : List Json) (state : σ) :
    b.RanBody args state (!assertions || b.pre.all (·.holds args))
      (b.run assertions args state) := by
  cases assertions with
  | true => exact (conducted_iff.mpr rfl).ran_body
  | false => exact run_body_ran_body b args state

def reached (b : ArityBody σ) (input : Schema) (checked assertions : Bool)
    (args : List Json) : Bool :=
  (!checked || input.accepts (.arr args)) && (!assertions || b.pre.all (·.holds args))

theorem guarded_ran_body (b : ArityBody σ) {input : Schema} (hi : input.check = .ok ())
    (output : Schema) (assertions : Bool) (args : List Json) (state : σ) :
    b.RanBody args state (b.reached input true assertions args)
      (Wrapper.guarded input output (b.run assertions) args state) := by
  cases ha : input.accepts (.arr args) with
  | false =>
    rw [Wrapper.guarded, verdict_refused hi ha, reached, ha]
    exact ⟨rfl, rfl⟩
  | true =>
    have hran := run_ran_body b assertions args state
    rw [Wrapper.guarded, verdict_accepted hi ha, reached, ha]
    exact ⟨(congrArg _ (Wrapper.judged_trace ..)).trans hran.1,
      (Wrapper.judged_state ..).trans hran.2⟩

end ArityBody

def Decision.checks : Decision → Bool → Bool
  | .off, _ => false
  | .always, _ => true
  | .conditional, enabled => enabled

/-- A call of a compiled arity runs the body once if the arguments get there, and else not. -/
theorem ArityBody.invoke_ran_body {b : ArityBody σ} {output : Schema} {decision : Decision}
    {config : Config} {types : Registry} {a : CompiledArity σ}
    (h : b.compile output decision config types = .ok a) (hi : a.input.check = .ok ())
    (enabled : Bool) (args : List Json) (state : σ) :
    b.RanBody args state (b.reached a.input (decision.checks enabled) config.assertions args)
      (a.invoke enabled args state).1 := by
  obtain ⟨-, himplementation, hwrapper⟩ := compile_ok h
  rw [CompiledArity.invoke, himplementation, hwrapper]
  cases decision with
  | off => exact run_ran_body b config.assertions args state
  | always =>
    rw [Wrapper.ofDecision, Wrapper.call_checking]
    exact guarded_ran_body b hi output config.assertions args state
  | conditional =>
    rw [Wrapper.ofDecision, Wrapper.call_checking]
    cases enabled with
    | true => exact guarded_ran_body b hi output config.assertions args state
    | false => exact run_ran_body b config.assertions args state

end CallContract
