import CallContract.Proofs.Argument.Embedding
import CallContract.Proofs.Function.Flaw
import CallContract.Proofs.Function.Invoke

/-!
# Declared schemas in compiled functions

A declared schema becomes a part of the input schema of its arity, and its
references are followed there. If they lead to the same as in the declared
schema alone, the arity takes what the declared schemas take. Only the input is
checked, so of the declared schemas it is known what the input says of them.
-/

set_option autoImplicit false

namespace CallContract

variable {σ : Type} {d : FunctionDef σ} {config : Config} {types : Registry}

/-- A validated call gets past an input that is a schema exactly with what it accepts. -/
theorem ArityBody.passes_iff_accepts {b : ArityBody σ} {output : Schema} {decision : Decision}
    {a : CompiledArity σ} (h : b.compile output decision config types = .ok a)
    (hc : a.input.check = .ok ()) (earlier : List (Call σ)) {enabled : Bool}
    (hon : decision = .always ∨ decision = .conditional ∧ enabled = true) (args : List Json)
    (state : σ) : ¬((a.after earlier).invoke enabled args state).1.RefusedInput ↔
      a.input.accepts (.arr args) = true := by
  rw [ArityBody.invoke_checking h earlier hon, Wrapper.guarded]
  cases ha : a.input.accepts (.arr args) with
  | true =>
    rw [verdict_accepted hc ha]
    exact iff_of_true (Wrapper.judged_passes output args state) rfl
  | false =>
    rw [verdict_refused hc ha]
    exact iff_of_false (fun hp => hp ⟨_, _, rfl⟩) Bool.false_ne_true

namespace FunctionDef

/-- If every declared schema of an arity is a schema, and what it refers to is the same in the input
schema of the arity, then this is a schema, and compiling does not fail for it. If, moreover, no
evaluation of a declared schema comes back to where it was with the same value, a validated call
gets past the input exactly if its arguments are what the declared schemas accept standing alone;
with the others as declared, exactly if each argument is. -/
theorem embedded_keeps_meaning (d : FunctionDef σ) (config : Config) {types : Registry}
    {b : ArityBody σ} (hb : b ∈ d.arities) {form : ArgumentForm}
    (hform : ArgumentForm.build types b.slots = .ok form) {demand : Demand}
    (hdemand : Slot.demand? types b.slots = some demand)
    (hkeys : ∀ slot ∈ b.slots, ∀ s ∈ slot.schema? types, s.keys.Nodup)
    (hdeclared : ∀ s ∈ demand.schemas, s.check = .ok () ∧ Schema.Kept s form.input s) :
    form.input.check = .ok () ∧
    (∀ fault, d.compile config types ≠ .error (.schema (.malformed form.input fault))) ∧
    ∀ f, d.compile config types = .ok f → ∃ a ∈ f.arities, a.form = form ∧
      b.compile d.output f.decision config types = .ok a ∧
      ((∀ s ∈ demand.schemas, Schema.Guarded s s) →
        ∀ (earlier : List (Call σ)) (enabled : Bool),
          f.decision = .always ∨ f.decision = .conditional ∧ enabled = true →
          ∀ (args : List Json) (state : σ),
            let passes := ¬((a.after earlier).invoke enabled args state).1.RefusedInput
            (passes ↔ demand.Met args) ∧
            ∀ (i : Nat) (s : Schema) (x : Json), demand.regular[i]? = some s →
              args[i]? = some x → demand.MetBut i args → (passes ↔ s.accepts x = true)) := by
  have hcheck : form.input.check = .ok () :=
    ArgumentForm.check_of_kept hform hdemand hkeys hdeclared
  refine ⟨hcheck, fun fault he => ?_, fun f hf => ?_⟩
  · exact malformed_of_mem (List.mem_of_head? ((compile_fails d config types _).mp he)) hcheck
  · obtain ⟨a, ha, hc⟩ := arity_of_compile hf hb
    obtain rfl : form = a.form := Except.ok.inj (hform.symm.trans (ArityBody.compile_ok hc).1)
    refine ⟨a, ha, rfl, hc, ?_⟩
    intro hguarded earlier enabled hon args state passes
    have hfaithful (s : Schema) (hs : s ∈ demand.schemas) : Schema.Faithful a.form.input s :=
      ⟨hguarded s hs, (hdeclared s hs).2⟩
    have haccepts : a.form.input.accepts (.arr args) = true ↔ demand.Met args :=
      ArgumentForm.accepts_kept hform hdemand hkeys hcheck (fun s hs => (hfaithful s hs).settled)
        (fun s hs => (hfaithful s hs).kept) args
    have hpasses : passes ↔ demand.Met args :=
      (ArityBody.passes_iff_accepts hc hcheck earlier hon args state).trans haccepts
    refine ⟨hpasses, fun i s x hs hx hothers => ?_⟩
    rw [hpasses, Demand.met_iff_slot hs hx]
    exact and_iff_right hothers

end FunctionDef

def soleDef (b : ArityBody Counters) : FunctionDef Counters :=
  ⟨"sole", Schema.any, ⟨false, true⟩, [b]⟩

def soleArity (b : ArityBody Counters) (form : ArgumentForm) : CompiledArity Counters :=
  ⟨form, b.run true, .ofDecision form.input Schema.any .always⟩

section Sole

variable {b : ArityBody Counters} {form : ArgumentForm}
  (hform : ArgumentForm.build .empty b.slots = .ok form)

include hform

theorem sole_arity_compile :
    b.compile Schema.any .always .enabled .empty = .ok (soleArity b form) := by
  rw [ArityBody.compile, hform]
  rfl

theorem sole_def_compile (hc : form.input.check = .ok ()) {n : Nat}
    (hn : form.input.tupleLength? = some n) : (soleDef b).compile .enabled .empty =
      .ok ⟨"sole", .always, ⟨Schema.any, .single n form.input⟩,
        FunctionDef.ordered [soleArity b form]⟩ := by
  have hallow : (soleDef b).allow (soleArity b form) = .ok () := map_error_ok.mpr hc
  have ha : (soleDef b).compileArities .always .enabled .empty [b] = .ok [soleArity b form] :=
    FunctionDef.compile_arities_cons (sole_arity_compile hform) hallow rfl
  refine FunctionDef.compile_of_arities (by simp [soleDef]) rfl rfl ha ?_
  simp [soleDef, soleArity, CompiledArity.input, Signature.compose, Signature.keyed,
    Signature.arityOf, hn, bind, Except.bind]

theorem sole_def_malformed {cause : SchemaError} (hc : form.input.check = .error cause) :
    (soleDef b).compile .enabled .empty = .error (.schema cause) := by
  refine (FunctionDef.compile_fails _ _ _ _).mpr ?_
  have hbody : b.flaws .empty 1 = [.schema cause] := by
    rw [ArityBody.flaws, hform]
    simp [hc, faultOf]
  have harities : (soleDef b).arities.flatMap (·.flaws .empty (soleDef b).arities.length) =
      [.schema cause] := by
    simpa [soleDef] using hbody
  rw [FunctionDef.flaws, harities]
  rfl

end Sole

def treeSchema : Schema :=
  .obj [("properties", .obj [("children",
    .obj [("items", .obj [("$ref", .str "#/items")]), ("type", .str "array")])]),
    ("type", .str "object")]

def forestSchema : Schema := .obj [("items", treeSchema), ("type", .str "array")]

def forestBody : ArityBody Counters :=
  ⟨[.named "first" (.schema forestSchema) .regular,
    .named "others" (.schema forestSchema) .rest], .count, [], []⟩

def forestForm : ArgumentForm :=
  ⟨[⟨"first", forestSchema, 0, .regular⟩], some ⟨"others", forestSchema, 1, .rest⟩,
    Schema.boundedArray [Schema.titled "first" forestSchema] treeSchema 1 none⟩

theorem forest_body_build : ArgumentForm.build .empty forestBody.slots = .ok forestForm := by cbv

theorem forest_compile : (soleDef forestBody).compile .enabled .empty =
    .ok ⟨"sole", .always, ⟨Schema.any, .single 1 forestForm.input⟩,
      FunctionDef.ordered [soleArity forestBody forestForm]⟩ :=
  sole_def_compile forest_body_build (by decide +kernel) rfl

theorem forest_schema_faithful : Schema.Faithful forestForm.input forestSchema := by
  let children : Schema := .obj [("items", .obj [("$ref", .str "#/items")]), ("type", .str "array")]
  have hchart : Schema.Charted forestSchema forestForm.input
      [forestSchema, treeSchema, children, .obj [("$ref", .str "#/items")]] := by decide +kernel
  exact hchart.faithful List.mem_cons_self

theorem embedded_keeps_meaning_forest :
    let run := fun args => ((soleArity forestBody forestForm).invoke true args fun _ => 0).1
    let tree := fun child => Json.obj [("children", .arr [child])]
    ¬(run [.arr [tree (.obj [])], tree (.obj [])]).RefusedInput ∧
      (run [.arr [tree (.natural 5)], tree (.obj [])]).RefusedInput := by
  intro run tree
  have hdemand : Slot.demand? .empty forestBody.slots =
      some ⟨[forestSchema], some forestSchema⟩ := by cbv
  have hschemas {P : Schema → Prop} (h : P forestSchema) :
      ∀ s ∈ Demand.schemas ⟨[forestSchema], some forestSchema⟩, P s := by
    simpa [Demand.schemas] using h
  have hcheck : forestSchema.check = .ok () := by decide +kernel
  obtain ⟨-, -, h⟩ := (soleDef forestBody).embedded_keeps_meaning .enabled (b := forestBody)
    List.mem_cons_self forest_body_build hdemand
    (by simp [forestBody, forestSchema, Slot.schema?, Slot.typing, Schema.keys])
    (hschemas ⟨hcheck, forest_schema_faithful.kept⟩)
  obtain ⟨a, -, -, hc, h⟩ := h _ forest_compile
  obtain rfl : soleArity forestBody forestForm = a :=
    Except.ok.inj ((sole_arity_compile forest_body_build).symm.trans hc)
  have hothers : forestSchema.accepts (.arr [.obj [("children", .arr [.obj []])]]) = true := by
    decide +kernel
  have hslot (x : Json) :
      ¬(run [x, tree (.obj [])]).RefusedInput ↔ forestSchema.accepts x = true := by
    refine (h (hschemas forest_schema_faithful.guarded) [] true (.inl rfl) _ _).2 0 forestSchema x
      rfl rfl ⟨fun j s y hj hs => ?_, by simp, hothers⟩
    cases j with
    | zero => exact absurd rfl hj
    | succ j => cases hs
  refine ⟨(hslot _).mpr (by decide +kernel), not_not.mp fun hp => ?_⟩
  exact absurd ((hslot _).mp hp) (by decide +kernel)

def soloBody (s : Schema) : ArityBody Counters :=
  ⟨[.named "x" (.schema s) .regular], .count, [], []⟩

def soloForm (s : Schema) : ArgumentForm :=
  ⟨[⟨"x", s, 0, .regular⟩], none, Schema.boundedArray [Schema.titled "x" s] (.bool false) 1 none⟩

theorem solo_body_build (s : Schema) :
    ArgumentForm.build .empty (soloBody s).slots = .ok (soloForm s) := by cbv

def linkedSchema : Schema :=
  .obj [("properties", .obj [("next", .obj [("$ref", .str "#")])]), ("type", .str "object")]

def definedSchema : Schema :=
  .obj [("$defs", .obj [("a", .obj [("type", .str "integer")])]), ("$ref", .str "#/$defs/a")]

/-- A reference to the whole document means the argument list in the input schema, and one to a
definition leads nowhere there. -/
theorem reference_changes_meaning :
    let link : Json := .obj [("next", .obj [])]
    (linkedSchema.check = .ok () ∧ linkedSchema.accepts link = true ∧
      (soleDef (soloBody linkedSchema)).compile .enabled .empty =
        .ok ⟨"sole", .always, ⟨Schema.any, .single 1 (soloForm linkedSchema).input⟩,
          FunctionDef.ordered [soleArity (soloBody linkedSchema) (soloForm linkedSchema)]⟩ ∧
      ((soleArity (soloBody linkedSchema) (soloForm linkedSchema)).invoke true [link]
        fun _ => 0).1.RefusedInput) ∧
    definedSchema.check = .ok () ∧
      (soleDef (soloBody definedSchema)).compile .enabled .empty =
        .error (.schema (.malformed (soloForm definedSchema).input
          (.deadReference (.nowhere "/$defs/a")))) := by
  have hform := solo_body_build linkedSchema
  have hcheck : (soloForm linkedSchema).input.check = .ok () := by decide +kernel
  refine ⟨⟨by decide +kernel, by decide +kernel, sole_def_compile hform hcheck rfl,
    not_not.mp fun hp => ?_⟩, by decide +kernel,
    sole_def_malformed (solo_body_build definedSchema) (by decide +kernel)⟩
  have haccepts := (ArityBody.passes_iff_accepts (sole_arity_compile hform) hcheck [] (.inl rfl)
    _ _).mp hp
  exact absurd haccepts (by decide +kernel)

namespace FunctionDef

/-- In a compiled function the output is a schema, and every declared schema of a regular argument
is sound in the input. It is a schema by itself if its references lead to the same there. So is the
schema of the rest, if what splicing leaves out of it is as it should be. -/
theorem declared_sound_of_compile {f : CompiledFunction σ} (h : d.compile config types = .ok f) :
    d.output.check = .ok () ∧ f.signature.output = d.output ∧ ∀ a ∈ f.arities,
      (∀ b ∈ a.form.regular, a.input.SoundIn b.schema ∧
        (Schema.Kept a.input b.schema b.schema → b.schema.check = .ok ())) ∧
      ∀ b ∈ a.form.rest, b.schema.keys.Nodup → b.schema.Tidy →
        Schema.Kept a.input b.schema b.schema → b.schema.check = .ok () := by
  obtain ⟨_, -, houtput, -, hsignature, -, -, -⟩ := compile_ok h
  obtain ⟨_, -, hsame, -⟩ := Signature.compose_ok hsignature
  refine ⟨houtput, hsame, fun a ha => ?_⟩
  · obtain ⟨hallow, b, -, hb⟩ := compile_arity h ha
    have hform := (ArityBody.compile_ok hb).1
    have hcheck : a.form.input.check = .ok () := (allow_ok hallow).2
    refine ⟨fun binding hbinding => ?_, fun binding => ?_⟩
    · have hsound := ArgumentForm.sound_in_of_check hform hcheck hbinding
      exact ⟨hsound, fun hk => (Schema.check_iff _).mpr (Schema.sound_in_kept hk hsound)⟩
    · exact ArgumentForm.check_of_rest hform hcheck

end FunctionDef

theorem declared_sound_of_compile_forest :
    forestSchema.check = .ok () ∧ Schema.any.check = .ok () := by
  obtain ⟨houtput, -, h⟩ := FunctionDef.declared_sound_of_compile forest_compile
  obtain ⟨hregular, -⟩ := h (soleArity forestBody forestForm)
    (List.mem_mergeSort.mpr List.mem_cons_self)
  exact ⟨(hregular _ List.mem_cons_self).2 forest_schema_faithful.kept.symm, houtput⟩

def straySchema : Schema := .obj [("$ref", .str "#/items")]

def mistitledSchema : Schema := .obj [("title", .natural 5), ("type", .str "array")]

def mistitledBody : ArityBody Counters :=
  ⟨[.named "xs" (.schema mistitledSchema) .rest], .count, [], []⟩

def mistitledForm : ArgumentForm :=
  ⟨[], some ⟨"xs", mistitledSchema, 0, .rest⟩, Schema.boundedArray [] Schema.any 0 none⟩

/-- A reference that is dead in its own schema is alive in the input, and a title is lost with all
that is wrong with it. -/
theorem malformed_schema_survives :
    (∃ f, (soleDef (soloBody straySchema)).compile .enabled .empty = .ok f ∧
      ∃ a ∈ f.arities, ∃ b ∈ a.form.regular, b.schema.check ≠ .ok ()) ∧
    ∃ f, (soleDef mistitledBody).compile .enabled .empty = .ok f ∧
      ∃ a ∈ f.arities, ∃ b ∈ a.form.rest, b.schema.check ≠ .ok () := by
  have hmistitled : ArgumentForm.build .empty mistitledBody.slots = .ok mistitledForm := by cbv
  refine ⟨⟨_, sole_def_compile (solo_body_build straySchema) (by decide +kernel) rfl,
      _, List.mem_mergeSort.mpr List.mem_cons_self, _, List.mem_cons_self, ?_⟩,
    ⟨_, sole_def_compile hmistitled (by decide +kernel) rfl,
      _, List.mem_mergeSort.mpr List.mem_cons_self, _, rfl, ?_⟩⟩
  · exact show straySchema.check ≠ .ok () by decide +kernel
  · exact show mistitledSchema.check ≠ .ok () by decide +kernel

end CallContract
