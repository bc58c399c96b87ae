import CallContract.Proofs.Function.Twin
import CallContract.Proofs.Session.Hosted

/-!
# The toggle over whole runs

Three twins of a function are compiled in one session and asked in any order,
between changes of the toggle, the types and the configuration. The untagged
twin answers as the always validated one while the toggle is on, and as the never
validated one while it is off. What a twin answers depends on its own requests
alone, and for the untagged one on the toggle.
-/

set_option autoImplicit false

namespace CallContract

namespace Session

section Steps

variable {σ : Type}

def toggles (steps : List (Step σ)) : List Bool :=
  steps.filterMap fun st => match st with
    | .toggle enabled => some enabled
    | _ => none

def latestToggle (steps : List (Step σ)) : Bool := (toggles steps).getLast?.getD true

theorem step_enabled (s : Session σ) (st : Step σ) :
    (s.step st).2.enabled = (toggles [st]).getLast?.getD s.enabled := by
  cases st with
  | toggle enabled => rfl
  | register t schema => unfold step changeTypes; cases s.own <;> rfl
  | unregister t => unfold step changeTypes; cases s.own <;> rfl
  | compile id d plain => simp only [step]; split <;> rfl
  | describe id => simp only [step]; split <;> rfl
  | call id args => simp only [step]; split <;> rfl
  | invoke id index args => simp only [step]; split <;> rfl
  | input id arity => simp only [step]; split <;> rfl
  | compileArity id b output decision => simp only [step]; split <;> rfl
  | invokeArity id args => simp only [step]; split <;> rfl
  | _ => rfl

theorem run_enabled (s : Session σ) (steps : List (Step σ)) :
    (s.run steps).2.enabled = (toggles steps).getLast?.getD s.enabled := by
  induction steps generalizing s with
  | nil => rfl
  | cons st rest ih =>
    have hsplit : toggles (st :: rest) = toggles [st] ++ toggles rest :=
      List.filterMap_append (l := [st])
    rw [run_cons, ih, step_enabled, hsplit, List.getLast?_append]
    cases (toggles rest).getLast? <;> rfl

end Steps

end Session

inductive Move where
  | request (t : Twin) (request : Request)
  | toggle (enabled : Bool)
  | register (type : TypeToken) (schema : Schema)
  | unregister (type : TypeToken)
  | configure (config : Config)

namespace Move

def step {τ : Type} (id : Twin → String) : Move → Session.Step (Lanes τ)
  | .request t (.call args) => .call (id t) args
  | .request t (.invoke index args) => .invoke (id t) index args
  | .toggle enabled => .toggle enabled
  | .register type schema => .register type schema
  | .unregister type => .unregister type
  | .configure config => .configure config

def asks (t : Twin) : Move → Bool
  | .request u _ => u == t
  | _ => false

/-- Whether it is a request to the twin, or changes the toggle of the untagged one. -/
def concerns (t : Twin) : Move → Bool
  | .request u _ => u == t
  | .toggle _ => t == .untagged
  | _ => false

theorem step_request {τ : Type} (id : Twin → String) (t : Twin) (request : Request) :
    step (τ := τ) id (.request t request) = request.step (id t) := by
  cases request <;> rfl

theorem spares {τ : Type} (m : Move) (id : Twin → String) (name : String) :
    (m.step (τ := τ) id).Spares name := by
  cases m with
  | request t request => cases request <;> exact trivial
  | _ => exact trivial

end Move

namespace Session

variable {τ : Type} {id : Twin → String} {f : CompiledFunction τ} {output : Schema}

def Hosts (s : Session (Lanes τ)) (id : Twin → String) (f : CompiledFunction τ)
    (output : Schema) : Prop :=
  ∀ t, ∃ g, s.functions.lookup (id t) = some g ∧ g.fresh = (f.twin t output).fresh

theorem step_answered {s : Session (Lanes τ)} (hs : s.Hosts id f output) (t : Twin)
    (request : Request) :
    let run := f.outcome output (t.checks s.enabled) request (s.state t)
    let r := s.step ((Move.request t request).step id)
    r.1 = reported run ∧ r.2.state = s.state.set t (stateAfter run (s.state t)) ∧
      r.2.enabled = s.enabled := by
  intro run r
  have hkept := step_kept (hs t) request
  rw [CompiledFunction.answer_twin, ← Move.step_request] at hkept
  obtain ⟨hanswer, hstate, henabled⟩ := hkept
  refine ⟨hanswer.trans ?_, hstate.trans ?_, henabled⟩
  · change reported (run.map _) = reported run
    cases run <;> rfl
  · change stateAfter (run.map _) s.state = s.state.set t (stateAfter run (s.state t))
    cases run with
    | none => exact (Lanes.set_self _ _).symm
    | some r => rfl

theorem step_unasked (s : Session (Lanes τ)) {m : Move} (hm : ∀ t, m.asks t = false) :
    (s.step (m.step id)).2.functions = s.functions ∧
      (s.step (m.step id)).2.state = s.state := by
  cases m with
  | request t request => exact absurd (hm t) (by simp [Move.asks])
  | register t schema =>
    simp only [Move.step, step, changeTypes]
    cases s.own <;> exact ⟨rfl, rfl⟩
  | unregister t =>
    simp only [Move.step, step, changeTypes]
    cases s.own <;> exact ⟨rfl, rfl⟩
  | _ => exact ⟨rfl, rfl⟩

theorem hosts_step {s : Session (Lanes τ)} (hs : s.Hosts id f output) (m : Move) :
    (s.step (m.step id)).2.Hosts id f output :=
  fun t => keeps_step (hs t) (m.spares id (id t))

theorem hosts_run {s : Session (Lanes τ)} (hs : s.Hosts id f output) (moves : List Move) :
    (s.run (moves.map (·.step id))).2.Hosts id f output := by
  induction moves generalizing s with
  | nil => exact hs
  | cons m rest ih => exact ih (hosts_step hs m)

structure Same (id : Twin → String) (f : CompiledFunction τ) (output : Schema) (t : Twin)
    (s s' : Session (Lanes τ)) : Prop where
  left : s.Hosts id f output
  right : s'.Hosts id f output
  lane : s.state t = s'.state t
  checks : t.checks s.enabled = t.checks s'.enabled

theorem same_asked {t : Twin} {s s' : Session (Lanes τ)} (h : Same id f output t s s')
    (request : Request) :
    let m := (Move.request t request).step id
    (s.step m).1 = (s'.step m).1 ∧ Same id f output t (s.step m).2 (s'.step m).2 := by
  intro m
  obtain ⟨ha, hl, he⟩ := step_answered h.left t request
  obtain ⟨ha', hl', he'⟩ := step_answered h.right t request
  refine ⟨?_, hosts_step h.left _, hosts_step h.right _, ?_, ?_⟩
  · rw [ha, ha', h.lane, h.checks]
  · rw [hl, hl', Lanes.set_same, Lanes.set_same, h.lane, h.checks]
  · rw [he, he']
    exact h.checks

/-- What does not concern a twin is invisible to it. -/
theorem same_unconcerned {t : Twin} {s s' : Session (Lanes τ)} (h : Same id f output t s s')
    {m : Move} (hm : m.concerns t = false) :
    Same id f output t (s.step (m.step id)).2 s' := by
  refine ⟨hosts_step h.left m, h.right, ?_, ?_⟩
  · rw [← h.lane]
    cases m with
    | request u request =>
      rw [(step_answered h.left u request).2.1]
      exact Lanes.set_other _ (fun ht => by simp [Move.concerns, ht] at hm) _
    | _ => exact congrFun (step_unasked s fun _ => rfl).2 t
  · rw [← h.checks, step_enabled]
    cases m with
    | toggle enabled =>
      cases t with
      | untagged => cases hm
      | _ => rfl
    | request u request => cases request <;> rfl
    | _ => rfl

theorem same_toggled {t : Twin} {s s' : Session (Lanes τ)} (h : Same id f output t s s')
    (enabled : Bool) :
    Same id f output t (s.step (.toggle enabled)).2 (s'.step (.toggle enabled)).2 :=
  ⟨h.left, h.right, h.lane, rfl⟩

def replies (id : Twin → String) (t : Twin) (s : Session (Lanes τ)) :
    List Move → List (Answer (Lanes τ))
  | [] => []
  | m :: rest =>
    let r := s.step (m.step id)
    if m.asks t then r.1 :: replies id t r.2 rest else replies id t r.2 rest

/-- A twin sees of a run only what concerns it. -/
theorem replies_filter {t : Twin} {s s' : Session (Lanes τ)}
    (h : Same id f output t s s') (moves : List Move) :
    replies id t s moves = replies id t s' (moves.filter (·.concerns t)) ∧
      Same id f output t (s.run (moves.map (·.step id))).2
        (s'.run ((moves.filter (·.concerns t)).map (·.step id))).2 := by
  induction moves generalizing s s' with
  | nil => exact ⟨rfl, h⟩
  | cons m rest ih =>
    cases hm : m.concerns t with
    | false =>
      have hasks : m.asks t = false := by
        cases m with
        | request u request => exact hm
        | _ => rfl
      rw [List.filter_cons_of_neg (by simp [hm]), replies, hasks]
      exact ih (same_unconcerned h hm)
    | true =>
      rw [List.filter_cons_of_pos hm]
      cases m with
      | request u request =>
        obtain rfl : u = t := beq_iff_eq.mp hm
        obtain ⟨ha, hs⟩ := same_asked h request
        obtain ⟨hr, hrun⟩ := ih hs
        refine ⟨?_, hrun⟩
        simp only [replies, Move.asks, beq_self_eq_true, if_true]
        rw [ha, hr]
      | toggle enabled => exact ih (same_toggled h enabled)
      | _ => cases hm

def compileTwins (id : Twin → String) (d : FunctionDef τ) : List (Step (Lanes τ)) :=
  [Twin.untagged, .always, .never].map fun t => .compile (id t) (d.twin t) false

theorem hosts_compiled (hid : ∀ t u, id t = id u → t = u) {s : Session (Lanes τ)}
    {d : FunctionDef τ} (hc : s.config = .enabled) (h : d.compile .enabled s.types = .ok f) :
    (s.run (compileTwins id d)).2.Hosts id f d.output := by
  have hcompile (t : Twin) (functions : List (String × CompiledFunction (Lanes τ))) :
      (({ s with functions := functions }).step (.compile (id t) (d.twin t) false)).2 =
        { s with functions := put (id t) (f.twin t d.output) functions } := by
    apply step_compile
    change (d.twin t).compile s.config s.types = _
    rw [hc]
    exact FunctionDef.compile_twin t h
  have hrun : (s.run (compileTwins id d)).2.functions =
      put (id .never) (f.twin .never d.output) (put (id .always) (f.twin .always d.output)
        (put (id .untagged) (f.twin .untagged d.output) s.functions)) := by
    have hfirst : (s.step (.compile (id .untagged) (d.twin .untagged) false)).2 = _ :=
      hcompile .untagged s.functions
    rw [compileTwins, List.map_cons, List.map_cons, List.map_singleton, run_cons, run_cons,
      run_cons, hfirst, hcompile .always, hcompile .never]
    rfl
  have hne {t u : Twin} (h : t ≠ u) : id t ≠ id u := fun he => h (hid t u he)
  intro t
  refine ⟨f.twin t d.output, ?_, rfl⟩
  rw [hrun, lookup_put, lookup_put, lookup_put]
  cases t with
  | never => rw [if_pos rfl]
  | always => rw [if_neg (hne (by decide)), if_pos rfl]
  | untagged => rw [if_neg (hne (by decide)), if_neg (hne (by decide)), if_pos rfl]

/-- A twin that checks what the untagged one checks answers as it from the same body state. -/
theorem step_counterpart {s : Session (Lanes τ)} (hs : s.Hosts id f output) {t : Twin}
    (ht : t.checks s.enabled = s.enabled) (request : Request) :
    let mine := s.step ((Move.request .untagged request).step id)
    let theirs := { s with state := s.state.set t (s.state .untagged) }.step
      ((Move.request t request).step id)
    mine.1 = theirs.1 ∧ mine.2.state .untagged = theirs.2.state t ∧
      ∀ args, request = .call args → ∃ result trace, mine.1 = .ran result trace := by
  intro mine theirs
  have hs' : { s with state := s.state.set t (s.state .untagged) }.Hosts id f output := hs
  obtain ⟨ha, hl, -⟩ := step_answered hs .untagged request
  obtain ⟨ha', hl', -⟩ := step_answered hs' t request
  dsimp only at ha' hl'
  rw [Lanes.set_same, ht] at ha' hl'
  refine ⟨ha.trans ha'.symm, ?_, ?_⟩
  · simp only [mine, theirs]
    rw [hl, hl', Lanes.set_same, Lanes.set_same]
    rfl
  · rintro args rfl
    exact ⟨_, _, ha⟩

/-- The three twins over runs of any length. -/
theorem toggle_simulation {d : FunctionDef τ} {id : Twin → String}
    (hid : ∀ t u, id t = id u → t = u) (config : Config) (own : Option Registry) (lanes : Lanes τ)
    (before : List (Step (Lanes τ)))
    (hc : ((start config own lanes).run before).2.config = .enabled)
    (hok : ∃ f, d.compile .enabled ((start config own lanes).run before).2.types = .ok f) :
    let prior := before ++ compileTwins id d
    let steps := fun moves : List Move => prior ++ moves.map (·.step id)
    let after := fun moves => ((start config own lanes).run (steps moves)).2
    (∀ (moves : List Move) (request : Request),
      let s := after moves
      let t := if s.enabled then Twin.always else .never
      let mine := s.step ((Move.request .untagged request).step id)
      let theirs := { s with state := s.state.set t (s.state .untagged) }.step
        ((Move.request t request).step id)
      mine.1 = theirs.1 ∧ mine.2.state .untagged = theirs.2.state t ∧
        ∀ args, request = .call args → ∃ result trace, mine.1 = .ran result trace) ∧
    (∀ (t : Twin) (moves moves' : List Move),
      moves.filter (·.concerns t) = moves'.filter (·.concerns t) →
        replies id t (after []) moves = replies id t (after []) moves' ∧
          (after moves).state t = (after moves').state t) ∧
    ∀ (moves : List Move) (enabled : Bool),
      (after moves).enabled = latestToggle (steps moves) ∧
        ((after moves).step (.toggle enabled)).1 = .previous (latestToggle (steps moves)) := by
  intro prior steps after
  obtain ⟨f, hf⟩ := hok
  have hafter (moves : List Move) : after moves =
      ((after []).run (moves.map (·.step id))).2 := by
    simp only [after, steps]
    rw [run_append, List.map_nil, List.append_nil]
  have hhosts : (after []).Hosts id f d.output := by
    simp only [after, steps, prior]
    rw [List.map_nil, List.append_nil, run_append]
    exact hosts_compiled hid hc hf
  refine ⟨fun moves request => ?_, fun t moves moves' hm => ?_, fun moves enabled => ?_⟩
  · intro s t mine theirs
    have hs : s.Hosts id f d.output := by
      simp only [s]
      rw [hafter]
      exact hosts_run hhosts moves
    have ht : t.checks s.enabled = s.enabled := by
      simp only [t]
      cases s.enabled <;> rfl
    exact step_counterpart hs ht request
  · have hsame : Same id f d.output t (after []) (after []) := ⟨hhosts, hhosts, rfl, rfl⟩
    obtain ⟨hr, hs⟩ := replies_filter hsame moves
    obtain ⟨hr', hs'⟩ := replies_filter hsame moves'
    refine ⟨by rw [hr, hr', hm], ?_⟩
    rw [hafter moves, hafter moves', hs.lane, hs'.lane, hm]
  · have henabled : (after moves).enabled = latestToggle (steps moves) :=
      run_enabled (start config own lanes) (steps moves)
    exact ⟨henabled, congrArg Answer.previous henabled⟩

def countingDef : FunctionDef Counters :=
  ⟨"count", Schema.any, ⟨false, false⟩, [countingBody]⟩

def twinName : Twin → String
  | .untagged => "conditional"
  | .always => "always"
  | .never => "off"

theorem toggle_simulation_counted :
    let after := fun moves : List Move => ((start .enabled none fun _ _ => 0).run
      (compileTwins twinName countingDef ++ moves.map (·.step twinName))).2
    let ask := fun t => Move.request t (.call [.null])
    (after [ask .never, .toggle false]).enabled = false ∧
      ((after [ask .never, .toggle false]).step (.toggle true)).1 = .previous false ∧
      replies twinName .always (after []) [.toggle false, ask .always, .toggle true, ask .never] =
        replies twinName .always (after []) [ask .always] := by
  intro after ask
  have hcompile : countingDef.compile .enabled .empty = .ok ⟨"count", .conditional,
      ⟨Schema.any, .single 1 countingForm.input⟩,
      FunctionDef.ordered [countingArity Schema.any .conditional]⟩ := by
    have ha : countingDef.compileArities .conditional .enabled .empty [countingBody] =
        .ok [countingArity Schema.any .conditional] :=
      FunctionDef.compile_arities_cons (counting_body_compile _ _) rfl rfl
    exact FunctionDef.compile_of_arities (by simp [countingDef]) rfl rfl ha rfl
  have hid : ∀ t u, twinName t = twinName u → t = u := by
    intro t u h
    cases t <;> cases u <;> first | rfl | exact absurd h (by decide)
  obtain ⟨-, hreplies, htoggles⟩ := toggle_simulation hid .enabled none (fun _ _ => 0) [] rfl
    ⟨_, hcompile⟩
  obtain ⟨henabled, hprevious⟩ := htoggles [ask .never, .toggle false] true
  obtain ⟨hsame, -⟩ := hreplies .always
    [.toggle false, ask .always, .toggle true, ask .never] [ask .always] rfl
  exact ⟨henabled, hprevious, hsame⟩

end Session

end CallContract
