import CallContract.Proofs.Function.Dispatch
import CallContract.Proofs.Session.Hosted

/-!
# The order of declaration

Arities can be declared in any order. Each is compiled by itself, and what is
made of them is put in ascending order, where no two have the same number of
regular arguments. So two orders give one function, or neither gives any.
-/

set_option autoImplicit false

namespace CallContract

variable {σ : Type}

namespace FunctionDef

variable {d : FunctionDef σ} {decision : Decision} {config : Config} {types : Registry}
  {bodies : List (ArityBody σ)} {f : CompiledFunction σ}

theorem compile_arities_perm {bodies' : List (ArityBody σ)} (hp : bodies.Perm bodies')
    {arities : List (CompiledArity σ)}
    (h : d.compileArities decision config types bodies = .ok arities) :
    ∃ arities', d.compileArities decision config types bodies' = .ok arities' ∧
      arities.Perm arities' := by
  induction hp generalizing arities with
  | nil => exact ⟨arities, h, .refl _⟩
  | cons b _ ih =>
    obtain ⟨a, more, hb, ha, hmore, rfl⟩ := compile_arities_uncons h
    obtain ⟨more', hmore', hp⟩ := ih hmore
    exact ⟨a :: more', compile_arities_cons hb ha hmore', hp.cons a⟩
  | swap b c rest =>
    obtain ⟨x, _, hc, hx, htail, rfl⟩ := compile_arities_uncons h
    obtain ⟨y, more, hb, hy, hmore, rfl⟩ := compile_arities_uncons htail
    exact ⟨_, compile_arities_cons hb hy (compile_arities_cons hc hx hmore), .swap y x more⟩
  | trans _ _ ih ih' =>
    obtain ⟨middle, hmiddle, hp⟩ := ih h
    obtain ⟨last, hlast, hp'⟩ := ih' hmiddle
    exact ⟨last, hlast, hp.trans hp'⟩

/-- Of the arities of a definition, compiling one of them sees nothing but their number. -/
theorem compile_arities_among (hlength : bodies.length = d.arities.length)
    (chosen : List (ArityBody σ)) :
    { d with arities := bodies }.compileArities decision config types chosen =
      d.compileArities decision config types chosen := by
  have hallow (a : CompiledArity σ) : { d with arities := bodies }.allow a = d.allow a := by
    simp only [allow, hlength]
  induction chosen with
  | nil => rfl
  | cons b rest ih =>
    simp only [compileArities, hallow, ih]
    rfl

/-- Declared in another order, the arities of a function make the same function. -/
theorem compile_perm (hp : d.arities.Perm bodies) (h : d.compile config types = .ok f) :
    { d with arities := bodies }.compile config types = .ok f := by
  have hasc := ascending_of_compile h
  obtain ⟨arities, hd, ho, ha, hs, hf, hname, hne⟩ := compile_ok h
  obtain ⟨arities', ha', harities⟩ := compile_arities_perm hp ha
  obtain ⟨rows, hk, -⟩ := Signature.compose_ok hs
  have hsome : { d with arities := bodies }.arities ≠ [] :=
    fun he => hne (List.perm_nil.mp (he ▸ hp))
  have hs' := (Signature.compose_perm (harities.map (·.input)) hk).trans hs
  rw [← compile_arities_among hp.length_eq.symm] at ha'
  have hcompile := compile_of_arities hsome hd ho ha' hs'
  rw [hf] at hasc
  have hordered : ordered arities' = ordered arities :=
    Signature.by_key_perm CompiledArity.arity harities hasc
  rw [hcompile, hordered, ← hf, ← hname]

/-- Two orders of the arities of a function compile or fail together. What is compiled has one
signature and one list of forms, and answers alike from one toggle and one body state on, whatever
was asked before. -/
theorem compile_unordered (d : FunctionDef σ) (hp : d.arities.Perm bodies) (config : Config)
    (types : Registry) :
    let d' : FunctionDef σ := { d with arities := bodies }
    ((∃ f, d.compile config types = .ok f) ↔ ∃ f', d'.compile config types = .ok f') ∧
    ∀ f f', d.compile config types = .ok f → d'.compile config types = .ok f' →
      f.signature = f'.signature ∧ f.arities.map (·.form) = f'.arities.map (·.form) ∧
      ∀ (s s' : Session σ) (id id' : String), s.Keeps id f → s'.Keeps id' f' →
        s.enabled = s'.enabled → s.state = s'.state → ∀ turns : List Turn,
          let run := s.run (turns.map (·.step id))
          let run' := s'.run (turns.map (·.step id'))
          run.1 = run'.1 ∧ run.2.state = run'.2.state := by
  intro d'
  refine ⟨⟨fun ⟨f, h⟩ => ⟨f, compile_perm hp h⟩, fun ⟨f, h⟩ => ⟨f, ?_⟩⟩, ?_⟩
  · exact compile_perm (d := d') hp.symm h
  · intro f f' h h'
    obtain rfl : f = f' := Except.ok.inj ((compile_perm hp h).symm.trans h')
    refine ⟨rfl, rfl, fun s s' id id' hs hs' henabled hstate turns => ?_⟩
    obtain ⟨hanswers, hrun⟩ := Session.alike_run ⟨hs, hs', henabled, hstate⟩ turns
    exact ⟨hanswers, hrun.state⟩

def rangeSession (f : CompiledFunction Counters) : Session Counters :=
  { Session.start .enabled none (fun _ => 0) with functions := [("range", f)] }

theorem compile_unordered_range :
    ∃ f, { rangeDef with arities := rangeDef.arities.reverse }.compile .enabled .empty = .ok f ∧
      f.signature = rangeFunction.signature ∧ f.arities.map (·.form) = [stopOnly, startStop] ∧
      let turns : List Turn := [.request (.call [.natural 3]), .toggle false, .request (.call [])]
      ((rangeSession f).run (turns.map (·.step "range"))).1 =
        [.ran (.ok (.arr [.natural 3])) [.body], .previous true,
          .ran (.error (.arityMismatch "range" 0)) []] := by
  obtain ⟨hok, hsame⟩ := compile_unordered rangeDef (List.reverse_perm _).symm .enabled .empty
  obtain ⟨f, hf⟩ := hok.mp ⟨_, range_def_compile⟩
  obtain ⟨hsignature, hforms, hturns⟩ := hsame _ f range_def_compile hf
  rw [range_function_arities] at hforms
  refine ⟨f, hf, hsignature.symm, hforms.symm, ?_⟩
  intro turns
  obtain ⟨hanswers, -⟩ := hturns (rangeSession rangeFunction) (rangeSession f) "range" "range"
    (Session.keeps_of_lookup rfl) (Session.keeps_of_lookup rfl) rfl rfl turns
  rw [← hanswers]
  -- the arities were put in order by a sort, which does not compute
  have hsorted : rangeFunction = ⟨"range", .conditional, rangeFunction.signature,
      [rangeArity stopOnly, rangeArity startStop]⟩ := by
    rw [← range_function_arities]
    rfl
  rw [hsorted]
  rfl

end FunctionDef

end CallContract
