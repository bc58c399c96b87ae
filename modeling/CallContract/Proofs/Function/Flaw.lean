import CallContract.Proofs.Argument.Tail
import CallContract.Proofs.Function.Dispatch

/-!
# What is wrong with a definition

The flaws of a definition, in the order in which they are looked for: its tags,
its number of arities, its output, its arities one after the other, and numbers
of arguments that are taken twice. Compiling stops at the first of them and
succeeds if there is none. The configuration has no part in it.
-/

set_option autoImplicit false

namespace CallContract

variable {σ : Type}

def ArityBody.regularCount (b : ArityBody σ) : Nat := b.slots.countP fun slot => !slot.isRest

def ArityBody.takes (b : ArityBody σ) (count : Nat) : Bool :=
  if b.slots.any Slot.isRest then b.regularCount ≤ count else count == b.regularCount

def ArityBody.flaws (types : Registry) (count : Nat) (b : ArityBody σ) : List DefinitionError :=
  match ArgumentForm.build types b.slots with
  | .error e => [.form e]
  | .ok form =>
    (if 1 < count ∧ form.isVariadic = true then [.variadicAmong count] else [])
      ++ (faultOf form.input.check).map .schema

namespace FunctionDef

def flaws (types : Registry) (d : FunctionDef σ) : List DefinitionError :=
  (if d.tags.never = true ∧ d.tags.always = true then [.conflictingTags] else [])
    ++ ((if d.arities.isEmpty = true then [.noArities] else [])
    ++ ((faultOf d.output.check).map .schema
    ++ (d.arities.flatMap (·.flaws types d.arities.length)
    ++ ((Signature.leastRepeated? (d.arities.map (·.regularCount))).map .duplicateArity).toList)))

variable {d : FunctionDef σ} {decision : Decision} {config : Config} {types : Registry}

theorem decide_fails (tags : Tags) (config : Config) :
    FailsFirst (if tags.never = true ∧ tags.always = true then [DefinitionError.conflictingTags]
      else []) (Decision.decide tags config) := by
  obtain ⟨never, always⟩ := tags
  intro e
  unfold Decision.decide
  cases never <;> cases always
  · by_cases hc : (config.instrument && config.assertions) = true <;> simp [hc]
  · simp
  · simp
  · simp

theorem allow_fails (d : FunctionDef σ) (a : CompiledArity σ) :
    FailsFirst ((if 1 < d.arities.length ∧ a.isVariadic = true
      then [DefinitionError.variadicAmong d.arities.length] else [])
      ++ (faultOf a.input.check).map .schema) (d.allow a) := by
  have h := FailsFirst.unless (p := 1 < d.arities.length ∧ a.isVariadic = true)
    (e := DefinitionError.variadicAmong d.arities.length)
    fun _ => (fails_first_fault a.input.check).map_error (f := DefinitionError.schema)
  simpa [allow] using h

theorem build_fails {b : ArityBody σ} {e : FormError}
    (h : ArgumentForm.build types b.slots = .error e) :
    d.build decision config types b = .error (.form e) := by
  rw [build, ArityBody.compile, h]
  rfl

theorem build_of_form (d : FunctionDef σ) (decision : Decision) (config : Config)
    {b : ArityBody σ} {form : ArgumentForm}
    (h : ArgumentForm.build types b.slots = .ok form) :
    ∃ a, d.build decision config types b = .ok a ∧ a.form = form := by
  rw [build, ArityBody.compile, h]
  exact ⟨_, rfl, rfl⟩

theorem compile_arities_fails (d : FunctionDef σ) (decision : Decision) (config : Config)
    (types : Registry) (bodies : List (ArityBody σ)) :
    FailsFirst (bodies.flatMap (·.flaws types d.arities.length))
      (d.compileArities decision config types bodies) := by
  induction bodies with
  | nil => exact fun e => by simp [compileArities]
  | cons b rest ih =>
    rw [List.flatMap_cons, compileArities, ArityBody.flaws]
    cases hb : ArgumentForm.build types b.slots with
    | error cause =>
      rw [build_fails hb]
      intro e
      exact ⟨fun h => congrArg some (Except.error.inj h),
        fun h => congrArg _ (Option.some.inj h)⟩
    | ok form =>
      obtain ⟨a, ha, rfl⟩ := build_of_form d decision config hb
      rw [ha]
      refine (allow_fails d a).bind fun _ _ => ?_
      exact ih.and_then (a :: ·)

theorem counts_of_compile_arities {bodies : List (ArityBody σ)} {arities : List (CompiledArity σ)}
    (h : d.compileArities decision config types bodies = .ok arities) :
    arities.map (·.arity) = bodies.map (·.regularCount) := by
  induction bodies generalizing arities with
  | nil =>
    cases h
    rfl
  | cons b rest ih =>
    obtain ⟨a, more, ha, -, hmore, rfl⟩ := compile_arities_uncons h
    have hform := (ArityBody.compile_ok ha).1
    rw [List.map_cons, List.map_cons, ih hmore]
    exact congrArg (· :: _) (ArgumentForm.counts_of_build hform).1

theorem tuple_length_of_compiled {b : ArityBody σ} {a : CompiledArity σ}
    (h : b.compile d.output decision config types = .ok a) :
    ∃ n, Schema.tupleLength? a.input = some n := by
  obtain ⟨elements, _, _, _, hinput⟩ := ArgumentForm.input_of_build (ArityBody.compile_ok h).1
  change a.input = _ at hinput
  rw [hinput, Schema.tupleLength?, Schema.elements_bounded_array]
  exact ⟨elements.length, rfl⟩

/-- The inputs of arities that have compiled are tuples, and their numbers of elements tell them
apart as their declared numbers do. -/
theorem keyed_of_compile_arities {arities : List (CompiledArity σ)}
    (h : d.compileArities decision config types d.arities = .ok arities) :
    ∃ rows, Signature.keyed (arities.map (·.input)) = .ok rows ∧
      Signature.leastRepeated? (rows.map (·.1)) =
        Signature.leastRepeated? (arities.map (·.arity)) := by
  obtain ⟨hlength, hall⟩ := compile_arities_ok h
  by_cases hone : d.arities.length = 1
  · -- a single input may have other elements than those of its regular arguments
    obtain ⟨a, rfl⟩ := List.length_eq_one_iff.mp (hlength.trans hone)
    obtain ⟨-, b, -, hb⟩ := hall a List.mem_cons_self
    obtain ⟨n, hn⟩ := tuple_length_of_compiled hb
    refine ⟨[(n, a.input)], (Signature.keyed_cons _ _ _).mpr ⟨n, [], hn, rfl, rfl⟩, ?_⟩
    exact (Signature.least_repeated_none.mpr (List.nodup_singleton n)).trans
      (Signature.least_repeated_none.mpr (List.nodup_singleton a.arity)).symm
  · refine ⟨_, Signature.keyed_map CompiledArity.input CompiledArity.arity arities
      fun a ha => ?_, congrArg _ (List.map_map ..)⟩
    obtain ⟨hallow, b, -, hb⟩ := hall a ha
    refine ArgumentForm.tuple_length_of_build (ArityBody.compile_ok hb).1
      (Bool.eq_false_iff.mpr fun hv => ?_)
    have hle := (allow_ok hallow).1 hv
    have hpos := List.length_pos_of_mem ha
    omega

theorem compose_fails {arities : List (CompiledArity σ)} (hne : d.arities ≠ [])
    (h : d.compileArities decision config types d.arities = .ok arities) :
    FailsFirst
      ((Signature.leastRepeated? (d.arities.map (·.regularCount))).map .duplicateArity).toList
      (Signature.compose d.output (arities.map (·.input))) := by
  obtain ⟨rows, hkeyed, hleast⟩ := keyed_of_compile_arities h
  have hrows : rows ≠ [] := by
    rintro rfl
    have hnil := List.map_eq_nil_iff.mp (Signature.keyed_inputs hkeyed).symm
    exact hne (List.length_eq_zero_iff.mp ((compile_arities_ok h).1 ▸ by rw [hnil]; rfl))
  rw [← counts_of_compile_arities h, ← hleast]
  exact Signature.compose_of_keyed hkeyed hrows

/-- Compiling fails with the first flaw of a definition, whatever the configuration. -/
theorem compile_fails (d : FunctionDef σ) (config : Config) (types : Registry) :
    FailsFirst (d.flaws types) (d.compile config types) := by
  refine (decide_fails d.tags config).bind fun decision _ => ?_
  refine FailsFirst.unless fun hsome => ?_
  refine ((fails_first_fault d.output.check).map_error).bind fun _ _ => ?_
  refine (compile_arities_fails d decision config types d.arities).bind fun arities ha => ?_
  have hne : d.arities ≠ [] := fun h => hsome (List.isEmpty_iff.mpr h)
  exact (compose_fails hne ha).and_then _

/-- Everything that is asked of a definition. -/
structure Sound (d : FunctionDef σ) (types : Registry) : Prop where
  tags : ¬(d.tags.never = true ∧ d.tags.always = true)
  arities : d.arities ≠ []
  output : d.output.check = .ok ()
  forms : ∀ b ∈ d.arities, ∃ form, ArgumentForm.build types b.slots = .ok form ∧
    form.input.check = .ok ()
  rest : d.arities.length = 1 ∨ ∀ b ∈ d.arities, ∀ slot ∈ b.slots, slot.isRest = false
  distinct : (d.arities.map (·.regularCount)).Nodup

theorem fault_of_nil {ε α : Type} {x : Except ε α} : faultOf x = [] ↔ ∃ a, x = .ok a :=
  (fails_first_fault x).ok_iff.symm

theorem flaws_of_arity {b : ArityBody σ} {count : Nat} :
    b.flaws types count = [] ↔ (∃ form, ArgumentForm.build types b.slots = .ok form ∧
      form.input.check = .ok ()) ∧ (1 < count → ∀ slot ∈ b.slots, slot.isRest = false) := by
  unfold ArityBody.flaws
  cases hb : ArgumentForm.build types b.slots with
  | error e => simp
  | ok form =>
    have hv := (ArgumentForm.counts_of_build hb).2
    have hrest : form.isVariadic = false ↔ ∀ slot ∈ b.slots, slot.isRest = false := by
      rw [hv, List.any_eq_false]
      simp only [Bool.not_eq_true]
    rw [List.append_eq_nil_iff, List.map_eq_nil_iff, fault_of_nil, ← hrest]
    constructor
    · rintro ⟨hcount, _, hcheck⟩
      refine ⟨⟨form, rfl, hcheck⟩, fun hc => ?_⟩
      by_contra hne
      rw [if_pos ⟨hc, Bool.eq_true_of_not_eq_false hne⟩] at hcount
      cases hcount
    · rintro ⟨⟨_, hform, hcheck⟩, hcount⟩
      cases hform
      refine ⟨if_neg fun ⟨hc, ht⟩ => ?_, (), hcheck⟩
      rw [hcount hc] at ht
      cases ht

theorem flaws_nil : d.flaws types = [] ↔ d.Sound types := by
  have hcount : d.arities ≠ [] → (¬1 < d.arities.length ↔ d.arities.length = 1) := fun hne => by
    have := List.length_pos_iff.mpr hne
    omega
  unfold flaws
  simp only [List.append_eq_nil_iff, List.map_eq_nil_iff, List.flatMap_eq_nil_iff, fault_of_nil,
    flaws_of_arity, ite_eq_right_iff, List.isEmpty_iff, reduceCtorEq, imp_false,
    Option.toList_eq_nil_iff, Option.map_eq_none_iff, Signature.least_repeated_none]
  constructor
  · rintro ⟨htags, hne, ⟨_, houtput⟩, hforms, hdistinct⟩
    refine ⟨htags, hne, houtput, fun b hb => (hforms b hb).1, ?_, hdistinct⟩
    by_cases hmany : 1 < d.arities.length
    · exact .inr fun b hb => (hforms b hb).2 hmany
    · exact .inl ((hcount hne).mp hmany)
  · intro h
    refine ⟨h.tags, h.arities, ⟨(), h.output⟩, fun b hb => ⟨h.forms b hb, fun hmany => ?_⟩,
      h.distinct⟩
    exact (h.rest.resolve_left fun hone => (hcount h.arities).mpr hone hmany) b hb

theorem mem_flaws {e : DefinitionError} : e ∈ d.flaws types ↔
    ((d.tags.never = true ∧ d.tags.always = true) ∧ e = .conflictingTags) ∨
    (d.arities = [] ∧ e = .noArities) ∨
    (∃ cause ∈ faultOf d.output.check, .schema cause = e) ∨
    (∃ b ∈ d.arities, e ∈ b.flaws types d.arities.length) ∨
    ∃ n, Signature.leastRepeated? (d.arities.map (·.regularCount)) = some n ∧
      .duplicateArity n = e := by
  unfold flaws
  simp only [List.mem_append, List.mem_ite_nil_right, List.mem_singleton, List.isEmpty_iff,
    List.mem_map, List.mem_flatMap, Option.mem_toList, Option.map_eq_some_iff]

theorem fault_of_check {s : Schema} {cause : SchemaError} (h : cause ∈ faultOf s.check) :
    ∃ fault, cause = .malformed s fault := by
  unfold Schema.check at h
  split at h
  · cases h
  · exact ⟨_, List.mem_singleton.mp h⟩

theorem mem_flaws_of_arity {b : ArityBody σ} {count : Nat} {e : DefinitionError}
    (h : e ∈ b.flaws types count) :
    (∃ cause, ArgumentForm.build types b.slots = .error cause ∧ e = .form cause) ∨
      e = .variadicAmong count ∨ ∃ s fault, e = .schema (.malformed s fault) := by
  unfold ArityBody.flaws at h
  split at h
  · rename_i cause hb
    exact .inl ⟨cause, hb, List.mem_singleton.mp h⟩
  · rcases List.mem_append.mp h with h | h
    · exact .inr (.inl (List.mem_singleton.mp (List.mem_ite_nil_right.mp h).2))
    · obtain ⟨_, hc, rfl⟩ := List.mem_map.mp h
      obtain ⟨fault, rfl⟩ := fault_of_check hc
      exact .inr (.inr ⟨_, fault, rfl⟩)

/-- Composing is never what refuses a tuple. -/
theorem not_a_tuple_not_mem (s : Schema) : .schema (.notATuple s) ∉ d.flaws types := by
  rw [mem_flaws]
  rintro (⟨-, h⟩ | ⟨-, h⟩ | ⟨_, hc, h⟩ | ⟨b, -, h⟩ | ⟨_, -, h⟩)
  · cases h
  · cases h
  · obtain ⟨_, rfl⟩ := fault_of_check hc
    cases h
  · rcases mem_flaws_of_arity h with ⟨_, -, h⟩ | h | ⟨_, _, h⟩ <;> cases h
  · cases h

theorem form_of_mem {cause : FormError} (h : .form cause ∈ d.flaws types) :
    ∃ b ∈ d.arities, ArgumentForm.build types b.slots = .error cause := by
  rcases mem_flaws.mp h with ⟨-, h⟩ | ⟨-, h⟩ | ⟨_, -, h⟩ | ⟨b, hb, h⟩ | ⟨_, -, h⟩
  · cases h
  · cases h
  · cases h
  · rcases mem_flaws_of_arity h with ⟨_, hbuild, h⟩ | h | ⟨_, _, h⟩
    · cases h
      exact ⟨b, hb, hbuild⟩
    · cases h
    · cases h
  · cases h

theorem malformed_of_mem {s : Schema} {fault : Fault}
    (h : .schema (.malformed s fault) ∈ d.flaws types) : s.check ≠ .ok () := by
  have hcheck {t : Schema} {cause : SchemaError} (hc : cause ∈ faultOf t.check)
      (he : DefinitionError.schema cause = .schema (.malformed s fault)) : s.check ≠ .ok () := by
    obtain ⟨_, rfl⟩ := fault_of_check hc
    cases he
    intro hok
    rw [fault_of_nil.mpr ⟨(), hok⟩] at hc
    cases hc
  rcases mem_flaws.mp h with ⟨-, h⟩ | ⟨-, h⟩ | ⟨cause, hc, h⟩ | ⟨b, -, h⟩ | ⟨_, -, h⟩
  · cases h
  · cases h
  · exact hcheck hc h
  · unfold ArityBody.flaws at h
    split at h
    · cases List.mem_singleton.mp h
    · rcases List.mem_append.mp h with h | h
      · cases List.mem_singleton.mp (List.mem_ite_nil_right.mp h).2
      · obtain ⟨cause, hc, h⟩ := List.mem_map.mp h
        exact hcheck hc h
  · cases h

/-- A definition compiles if it has all that is asked of it. -/
theorem compile_iff_sound (d : FunctionDef σ) (config : Config) (types : Registry) :
    (∃ f, d.compile config types = .ok f) ↔ d.Sound types :=
  (compile_fails d config types).ok_iff.trans flaws_nil

theorem Sound.sole (h : d.Sound types) {b c : ArityBody σ} (hb : b ∈ d.arities)
    (hc : c ∈ d.arities) {count : Nat} (htb : b.takes count = true) (htc : c.takes count = true) :
    b = c := by
  rcases h.rest with hone | hnone
  · obtain ⟨x, hx⟩ := List.length_eq_one_iff.mp hone
    rw [hx] at hb hc
    rw [List.mem_singleton.mp hb, List.mem_singleton.mp hc]
  · have hcount {x : ArityBody σ} (hx : x ∈ d.arities) (ht : x.takes count = true) :
        count = x.regularCount := by
      have hrest : x.slots.any Slot.isRest = false :=
        List.any_eq_false.mpr fun slot hs => by simp [hnone x hx slot hs]
      rw [ArityBody.takes, hrest] at ht
      exact beq_iff_eq.mp ht
    exact List.inj_on_of_nodup_map h.distinct hb hc ((hcount hb htb).symm.trans (hcount hc htc))

/-- A definition compiles under every configuration or under none. It does if it has all that is
asked of it, and else fails with the first of its flaws. A tuple is missed only in a sequence that
is declared for the rest. -/
theorem compile_outcome (d : FunctionDef σ) (types : Registry) :
    (∀ config, (∃ f, d.compile config types = .ok f) ↔ d.Sound types) ∧
    (∀ config e, d.compile config types = .error e ↔ (d.flaws types).head? = some e) ∧
    (∀ config s, d.compile config types ≠ .error (.schema (.notATuple s))) ∧
    ∀ config s, d.compile config types = .error (.form (.schema (.notATuple s))) →
      ∃ b ∈ d.arities, Slot.LooseTail types b.slots s := by
  have hmem {config : Config} {e : DefinitionError} (h : d.compile config types = .error e) :
      e ∈ d.flaws types := List.mem_of_head? ((compile_fails d config types e).mp h)
  refine ⟨fun config => ?_, fun config => compile_fails d config types, fun config s h => ?_,
    fun config s h => ?_⟩
  · exact compile_iff_sound d config types
  · exact not_a_tuple_not_mem s (hmem h)
  · obtain ⟨b, hb, hbuild⟩ := form_of_mem (hmem h)
    exact ⟨b, hb, ArgumentForm.loose_tail_of_build hbuild⟩

end FunctionDef

def plainForm : ArgumentForm :=
  ⟨[⟨"x", Schema.any, 0, .regular⟩], none,
    Schema.boundedArray [Schema.titled "x" Schema.any] (.bool false) 1 none⟩

theorem build_plain : ArgumentForm.build .empty [.named "x" .none .regular] = .ok plainForm := by
  cbv

def plainBody : ArityBody Counters := ⟨[.named "x" .none .regular], .arguments, [], []⟩

def twiceDef : FunctionDef Counters :=
  ⟨"twice", Schema.any, ⟨false, false⟩, [plainBody, plainBody]⟩

theorem compile_outcome_twice :
    twiceDef.compile ⟨false, false⟩ .empty = .error (.duplicateArity 1) := by
  refine ((twiceDef.compile_outcome .empty).2.1 _ _).mpr ?_
  have hbody : plainBody.flaws .empty 2 = [] := by
    rw [ArityBody.flaws, plainBody, build_plain]
    rfl
  have harities : twiceDef.arities.flatMap (·.flaws .empty twiceDef.arities.length) = [] :=
    List.flatMap_eq_nil_iff.mpr fun b hb => by
      obtain rfl : b = plainBody := by simpa [twiceDef] using hb
      exact hbody
  rw [FunctionDef.flaws, harities]
  rfl

end CallContract
