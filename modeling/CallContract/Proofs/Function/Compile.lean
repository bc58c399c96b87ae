import CallContract.Function.Compile
import CallContract.Proofs.Outcome
import CallContract.Proofs.Function.Signature
import CallContract.Proofs.Function.Wrapper

/-!
# What a compiled function is made of

A function that compiles has all its arities: each is compiled from a declared
one, with an input that is a schema, and one for a rest stands alone. Its errors
are those of its wrappers and of its bodies, and a body has only its own.
-/

set_option autoImplicit false

namespace CallContract

variable {σ : Type}

theorem and_then_error {r : Run σ} {next : Json → σ → Run σ} {e : CallError}
    (h : (r.andThen next).result = .error e) :
    r.result = .error e ∨ ∃ v, (next v r.state).result = .error e := by
  unfold Run.andThen at h
  split at h
  · exact .inl h
  · exact .inr ⟨_, h⟩

namespace ArityBody

theorem run_error {b : ArityBody σ} {assertions : Bool} {args : List Json} {state : σ}
    {e : CallError} (h : (b.run assertions args state).result = .error e) :
    (∃ cause, e = .body cause) ∨ ∃ moment description, e = .condition moment description := by
  have hbody {state : σ} (h : (b.runBody args state).result = .error e) :
      ∃ cause, e = .body cause := by
    unfold runBody at h
    split at h <;> cases h
    exact ⟨_, rfl⟩
  unfold run at h
  split at h
  · rcases and_then_error h with h | ⟨v, h⟩
    · rcases and_then_error h with h | ⟨v, h⟩
      · unfold runPre at h
        split at h <;> cases h
        exact .inr ⟨_, _, rfl⟩
      · exact .inl (hbody h)
    · unfold runPost at h
      split at h <;> cases h
      exact .inr ⟨_, _, rfl⟩
  · exact .inl (hbody h)

end ArityBody

namespace FunctionDef

variable {d : FunctionDef σ} {decision : Decision} {config : Config} {types : Registry}

theorem allow_ok {a : CompiledArity σ} (h : d.allow a = .ok ()) :
    (a.isVariadic = true → d.arities.length ≤ 1) ∧ a.input.check = .ok () := by
  unfold allow at h
  split at h
  · cases h
  · rename_i hv
    refine ⟨fun ha => ?_, map_error_ok.mp h⟩
    rw [ha, Bool.and_true, decide_eq_true_iff] at hv
    omega

theorem compile_arities_uncons {b : ArityBody σ} {rest : List (ArityBody σ)}
    {arities : List (CompiledArity σ)}
    (h : d.compileArities decision config types (b :: rest) = .ok arities) :
    ∃ a more, b.compile d.output decision config types = .ok a ∧ d.allow a = .ok () ∧
      d.compileArities decision config types rest = .ok more ∧ arities = a :: more := by
  obtain ⟨a, ha, h⟩ := bind_ok.mp h
  obtain ⟨_, hallow, h⟩ := bind_ok.mp h
  obtain ⟨more, hmore, h⟩ := bind_ok.mp h
  exact ⟨a, more, map_error_ok.mp ha, hallow, hmore, (Except.ok.inj h).symm⟩

theorem compile_arities_ok {bodies : List (ArityBody σ)} {arities : List (CompiledArity σ)}
    (h : d.compileArities decision config types bodies = .ok arities) :
    arities.length = bodies.length ∧ ∀ a ∈ arities, d.allow a = .ok () ∧
      ∃ b ∈ bodies, b.compile d.output decision config types = .ok a := by
  induction bodies generalizing arities with
  | nil =>
    cases h
    exact ⟨rfl, fun a ha => by cases ha⟩
  | cons b rest ih =>
    obtain ⟨a, more, ha, hallow, hmore, rfl⟩ := compile_arities_uncons h
    obtain ⟨hlength, hall⟩ := ih hmore
    refine ⟨congrArg (· + 1) hlength, fun x hx => ?_⟩
    rcases List.mem_cons.mp hx with rfl | hx
    · exact ⟨hallow, b, by simp, ha⟩
    · obtain ⟨hx, b', hb', hc⟩ := hall x hx
      exact ⟨hx, b', by simp [hb'], hc⟩

theorem compiled_of_mem {bodies : List (ArityBody σ)} {arities : List (CompiledArity σ)}
    (h : d.compileArities decision config types bodies = .ok arities) {b : ArityBody σ}
    (hb : b ∈ bodies) : ∃ a ∈ arities, b.compile d.output decision config types = .ok a := by
  induction bodies generalizing arities with
  | nil => cases hb
  | cons c rest ih =>
    obtain ⟨a, more, ha, -, hmore, rfl⟩ := compile_arities_uncons h
    rcases List.mem_cons.mp hb with rfl | hb
    · exact ⟨a, by simp, ha⟩
    · obtain ⟨x, hx, hc⟩ := ih hmore hb
      exact ⟨x, List.mem_cons_of_mem _ hx, hc⟩

def ordered (arities : List (CompiledArity σ)) : List (CompiledArity σ) :=
  arities.mergeSort fun a b => a.arity ≤ b.arity

/-- What a successful compilation has found and made. -/
theorem compile_ok {f : CompiledFunction σ} (h : d.compile config types = .ok f) :
    ∃ arities, Decision.decide d.tags config = .ok f.decision ∧ d.output.check = .ok () ∧
      d.compileArities f.decision config types d.arities = .ok arities ∧
      Signature.compose d.output (arities.map (·.input)) = .ok f.signature ∧
      f.arities = ordered arities ∧ f.name = d.name ∧ d.arities ≠ [] := by
  obtain ⟨decision, hd, h⟩ := bind_ok.mp h
  split at h
  · cases h
  · rename_i hne
    obtain ⟨_, ho, h⟩ := bind_ok.mp h
    obtain ⟨arities, ha, h⟩ := bind_ok.mp h
    obtain ⟨signature, hs, h⟩ := bind_ok.mp h
    cases h
    exact ⟨arities, hd, map_error_ok.mp ho, ha, hs, rfl, rfl, by simpa using hne⟩

theorem compile_arity {f : CompiledFunction σ} (h : d.compile config types = .ok f)
    {a : CompiledArity σ} (ha : a ∈ f.arities) : d.allow a = .ok () ∧
      ∃ b ∈ d.arities, b.compile d.output f.decision config types = .ok a := by
  obtain ⟨arities, -, -, hc, -, hf, -⟩ := compile_ok h
  rw [hf] at ha
  exact (compile_arities_ok hc).2 a (List.mem_mergeSort.mp ha)

theorem arity_of_compile {f : CompiledFunction σ} (h : d.compile config types = .ok f)
    {b : ArityBody σ} (hb : b ∈ d.arities) :
    ∃ a ∈ f.arities, b.compile d.output f.decision config types = .ok a := by
  obtain ⟨arities, -, -, hc, -, hf, -⟩ := compile_ok h
  obtain ⟨a, ha, hba⟩ := compiled_of_mem hc hb
  exact ⟨a, hf ▸ List.mem_mergeSort.mpr ha, hba⟩

theorem compile_arities_cons {b : ArityBody σ} {rest : List (ArityBody σ)} {a : CompiledArity σ}
    {more : List (CompiledArity σ)} (hb : b.compile d.output decision config types = .ok a)
    (ha : d.allow a = .ok ())
    (hr : d.compileArities decision config types rest = .ok more) :
    d.compileArities decision config types (b :: rest) = .ok (a :: more) :=
  bind_ok.mpr ⟨a, map_error_ok.mpr hb, bind_ok.mpr ⟨(), ha, bind_ok.mpr ⟨more, hr, rfl⟩⟩⟩

theorem compile_of_arities {arities : List (CompiledArity σ)} {signature : Signature}
    (hne : d.arities ≠ []) (hd : Decision.decide d.tags config = .ok decision)
    (ho : d.output.check = .ok ())
    (ha : d.compileArities decision config types d.arities = .ok arities)
    (hs : Signature.compose d.output (arities.map (·.input)) = .ok signature) :
    d.compile config types = .ok ⟨d.name, decision, signature, ordered arities⟩ := by
  refine bind_ok.mpr ⟨decision, hd, ?_⟩
  rw [if_neg (by simpa using hne)]
  exact bind_ok.mpr ⟨(), map_error_ok.mpr ho, bind_ok.mpr ⟨arities, ha, bind_ok.mpr
    ⟨signature, hs, rfl⟩⟩⟩

end FunctionDef

end CallContract
