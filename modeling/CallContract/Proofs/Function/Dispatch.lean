import CallContract.Proofs.Argument.Form
import CallContract.Proofs.Function.Failure

/-!
# A function and its signature agree

The arities of a compiled function ascend strictly, so a number of arguments
belongs to at most one of them. Without an arity for a rest the signature lists
the same numbers; in every case a list that a published input accepts goes to
the arity of that input.
-/

set_option autoImplicit false

namespace CallContract

variable {σ : Type}

namespace ArgumentForm

/-- An accepted argument list has a length that the form takes. -/
theorem length_of_accepts {types : Registry} {slots : List Slot} {form : ArgumentForm}
    (h : build types slots = .ok form) {args : List Json}
    (ha : form.input.accepts (.arr args) = true) :
    form.arity ≤ args.length ∧ (form.isVariadic = false → args.length = form.arity) := by
  obtain ⟨demand, -, -, htail, hinput⟩ := build_demand h
  have hcount : (form.regular.map fun b => Schema.titled b.name b.schema).length = form.arity :=
    List.length_map _
  cases ht : demand.tail with
  | none =>
    rw [ht] at hinput
    rw [hinput, head_eq] at ha
    have hleast := Schema.least_of_accepts ha
    have hmost := Schema.most_of_closed ha
    exact ⟨hleast, fun _ => by omega⟩
  | some t =>
    rw [ht] at hinput htail
    obtain ⟨first, _, least, _, hf, -, -, -, -, hs⟩ := Schema.concat_ok hinput
    rw [head_eq, Schema.elements_bounded_array] at hf
    cases hf
    rw [hs] at ha
    have hleast := Schema.least_of_accepts ha
    exact ⟨by omega, fun hv => by rw [← htail] at hv; cases hv⟩

theorem tuple_length_of_build {types : Registry} {slots : List Slot} {form : ArgumentForm}
    (h : build types slots = .ok form) (hv : form.isVariadic = false) :
    Schema.tupleLength? form.input = some form.arity := by
  obtain ⟨demand, -, -, htail, hinput⟩ := build_demand h
  cases ht : demand.tail with
  | none =>
    rw [ht] at hinput
    rw [hinput, head_eq, Schema.tupleLength?, Schema.elements_bounded_array]
    exact congrArg some (List.length_map _)
  | some t =>
    rw [ht, hv] at htail
    cases htail

end ArgumentForm

namespace CompiledFunction

def GoesTo (f : CompiledFunction σ) (count : Nat) (a : CompiledArity σ) : Prop :=
  ∃ i, f.position count = some i ∧ f.arities[i]? = some a

/-- What can be called and what is published say the same. -/
structure Agrees (f : CompiledFunction σ) : Prop where
  ascending : f.arities.Pairwise fun a b => a.arity < b.arity
  alone : ∀ a ∈ f.arities, a.isVariadic = true → f.arities = [a]
  sole : ∀ (count : Nat), ∀ a ∈ f.arities, ∀ b ∈ f.arities,
    a.takes count = true → b.takes count = true → a = b
  goes : ∀ (count : Nat) (a : CompiledArity σ),
    f.GoesTo count a ↔ a ∈ f.arities ∧ a.takes count = true
  called : ∀ (args : List Json) (a : CompiledArity σ), f.GoesTo args.length a →
    ∀ (earlier : List (Request × Bool × σ)) (enabled : Bool) (state : σ),
      ((f.after earlier).call enabled args state).1 = (a.invoke enabled args state).1
  mismatched : ∀ (args : List Json) (earlier : List (Request × Bool × σ)) (enabled : Bool)
    (state : σ),
    (∃ name count, ((f.after earlier).call enabled args state).1.result =
        .error (.arityMismatch name count)) ↔
      ∀ a ∈ f.arities, a.takes args.length = false
  published : (∀ a ∈ f.arities, a.isVariadic = false) →
    f.signature.entries = f.arities.map (fun a => (a.arity, a.input)) ∧
      ∀ (k : Nat) (s : Schema), f.signature.input k = some s ↔ ∃ a, f.GoesTo k a ∧ a.input = s
  accepted : ∀ (n : Nat) (s : Schema), (n, s) ∈ f.signature.entries →
    ∀ (args : List Json), s.accepts (.arr args) = true →
      (∃ a, f.GoesTo args.length a ∧ a.input = s) ∧
        ∀ (earlier : List (Request × Bool × σ)) (enabled : Bool) (state : σ) (name : String)
          (count : Nat), ((f.after earlier).call enabled args state).1.result ≠
            .error (.arityMismatch name count)

theorem call_after (f : CompiledFunction σ) (earlier : List (Request × Bool × σ))
    (enabled : Bool) (args : List Json) (state : σ) :
    ((f.after earlier).call enabled args state).1 = (f.call enabled args state).1 :=
  Option.some.inj (f.answer_after earlier (.call args) enabled state)

theorem call_of_goes {f : CompiledFunction σ} {args : List Json} {a : CompiledArity σ}
    (h : f.GoesTo args.length a) (enabled : Bool) (state : σ) :
    (f.call enabled args state).1 = (a.invoke enabled args state).1 := by
  obtain ⟨i, hi, ha⟩ := h
  rw [call, hi, Option.bind_some, invoke, ha]
  rfl

theorem goes_exists {f : CompiledFunction σ} {count : Nat} {a : CompiledArity σ}
    (ha : a ∈ f.arities) (ht : a.takes count = true) :
    ∃ b, f.GoesTo count b ∧ b ∈ f.arities ∧ b.takes count = true := by
  cases hp : f.position count with
  | none => exact absurd ht (by simp [List.findIdx?_eq_none_iff.mp hp a ha])
  | some i =>
    obtain ⟨hi, hb, -⟩ := List.findIdx?_eq_some_iff_getElem.mp hp
    exact ⟨_, ⟨i, hp, List.getElem?_eq_getElem hi⟩, List.getElem_mem hi, hb⟩

theorem takes_of_goes {f : CompiledFunction σ} {count : Nat} {a : CompiledArity σ}
    (h : f.GoesTo count a) : a ∈ f.arities ∧ a.takes count = true := by
  obtain ⟨i, hp, ha⟩ := h
  obtain ⟨hi, hb, -⟩ := List.findIdx?_eq_some_iff_getElem.mp hp
  rw [List.getElem?_eq_getElem hi] at ha
  cases ha
  exact ⟨List.getElem_mem hi, hb⟩

end CompiledFunction

namespace CompiledArity

theorem takes_direct {a : CompiledArity σ} (hv : a.isVariadic = false) (count : Nat) :
    a.takes count = true ↔ count = a.arity := by
  rw [takes, hv]
  exact beq_iff_eq

theorem eq_of_arity {arities : List (CompiledArity σ)}
    (h : arities.Pairwise fun a b => a.arity < b.arity) {a b : CompiledArity σ}
    (ha : a ∈ arities) (hb : b ∈ arities) (hab : a.arity = b.arity) : a = b := by
  obtain ⟨i, hi, rfl⟩ := List.getElem_of_mem ha
  obtain ⟨j, hj, rfl⟩ := List.getElem_of_mem hb
  have hlt := List.pairwise_iff_getElem.mp h
  rcases Nat.lt_trichotomy i j with hij | rfl | hji
  · have := hlt i j hi hj hij
    omega
  · rfl
  · have := hlt j i hj hi hji
    omega

end CompiledArity

theorem ArityBody.invoke_matches {b : ArityBody σ} {output : Schema} {decision : Decision}
    {config : Config} {types : Registry} {a : CompiledArity σ}
    (h : b.compile output decision config types = .ok a) (enabled : Bool) (args : List Json)
    (state : σ) (name : String) (count : Nat) :
    (a.invoke enabled args state).1.result ≠ .error (.arityMismatch name count) := by
  intro he
  rcases invoke_error h he with hr | hv | ⟨v, -, hv⟩
  · rcases run_error hr with ⟨_, he⟩ | ⟨_, _, he⟩ <;> cases he
  · rcases verdict_cases hv with ⟨_, he⟩ | ⟨_, he⟩ <;> cases he
  · rcases verdict_cases hv with ⟨_, he⟩ | ⟨_, he⟩ <;> cases he

namespace FunctionDef

variable {d : FunctionDef σ} {config : Config} {types : Registry} {f : CompiledFunction σ}

theorem alone_of_compile (h : d.compile config types = .ok f) {a : CompiledArity σ}
    (ha : a ∈ f.arities) (hv : a.isVariadic = true) : f.arities = [a] := by
  obtain ⟨arities, -, -, hc, -, hf, -⟩ := compile_ok h
  have hlength : f.arities.length = d.arities.length := by
    rw [hf, ordered, List.length_mergeSort, (compile_arities_ok hc).1]
  have hone := (allow_ok (compile_arity h ha).1).1 hv
  match hl : f.arities with
  | [] => rw [hl] at ha; cases ha
  | [b] => rw [hl] at ha; rw [List.mem_singleton.mp ha]
  | b :: c :: rest =>
    rw [hl, List.length_cons, List.length_cons] at hlength
    omega

theorem entries_of_compile (h : d.compile config types = .ok f)
    (hv : ∀ a ∈ f.arities, a.isVariadic = false) :
    f.signature.entries = f.arities.map fun a => (a.arity, a.input) := by
  obtain ⟨arities, -, -, -, hs, hf, -⟩ := compile_ok h
  obtain ⟨rows, hk, -, he, -, -⟩ := Signature.compose_ok hs
  have htuples : ∀ a ∈ arities, Schema.tupleLength? a.input = some a.arity := by
    intro a ha
    have ha' : a ∈ f.arities := hf ▸ List.mem_mergeSort.mpr ha
    obtain ⟨-, b, -, hb⟩ := compile_arity h ha'
    exact ArgumentForm.tuple_length_of_build (ArityBody.compile_ok hb).1 (hv a ha')
  rw [Signature.keyed_map (·.input) (·.arity) arities htuples] at hk
  cases hk
  have hsort : (ordered arities).map (fun a => (a.arity, a.input)) =
      Signature.sorted (arities.map fun a => (a.arity, a.input)) :=
    List.map_mergeSort fun _ _ _ _ => rfl
  rw [he, hf, hsort]

theorem ascending_of_compile (h : d.compile config types = .ok f) :
    f.arities.Pairwise fun a b => a.arity < b.arity := by
  by_cases hv : ∃ a ∈ f.arities, a.isVariadic = true
  · obtain ⟨a, ha, hv⟩ := hv
    rw [alone_of_compile h ha hv]
    exact List.pairwise_singleton _ _
  · have hnone : ∀ a ∈ f.arities, a.isVariadic = false := fun a ha =>
      Bool.eq_false_iff.mpr fun ht => hv ⟨a, ha, ht⟩
    obtain ⟨_, -, -, -, hs, -, -⟩ := compile_ok h
    obtain ⟨_, -, -, -, hasc, -⟩ := Signature.compose_ok hs
    rw [entries_of_compile h hnone, Signature.Ascending, List.pairwise_map] at hasc
    exact hasc

theorem takes_of_accepted (h : d.compile config types = .ok f) {n : Nat} {s : Schema}
    (hs : (n, s) ∈ f.signature.entries) {args : List Json} (ha : s.accepts (.arr args) = true) :
    ∃ a ∈ f.arities, a.takes args.length = true ∧ a.input = s := by
  obtain ⟨arities, -, -, -, hc, hf, -⟩ := compile_ok h
  obtain ⟨rows, hk, -, he, -, -⟩ := Signature.compose_ok hc
  rw [he] at hs
  have hrow : s ∈ rows.map (·.2) :=
    List.mem_map.mpr ⟨(n, s), List.mem_mergeSort.mp hs, rfl⟩
  rw [Signature.keyed_inputs hk] at hrow
  obtain ⟨a, hm, rfl⟩ := List.mem_map.mp hrow
  have hm' : a ∈ f.arities := hf ▸ List.mem_mergeSort.mpr hm
  obtain ⟨-, b, -, hb⟩ := compile_arity h hm'
  obtain ⟨hle, heq⟩ := ArgumentForm.length_of_accepts (ArityBody.compile_ok hb).1 ha
  refine ⟨a, hm', ?_, rfl⟩
  cases hv : a.isVariadic with
  | true => simp only [CompiledArity.takes, hv, if_true]; exact decide_eq_true hle
  | false => exact (a.takes_direct hv _).mpr (heq hv)

/-- No two arities take the same number of arguments. -/
theorem sole_of_compile (h : d.compile config types = .ok f) {count : Nat} {a b : CompiledArity σ}
    (ha : a ∈ f.arities) (hb : b ∈ f.arities) (hta : a.takes count = true)
    (htb : b.takes count = true) : a = b := by
  cases hva : a.isVariadic with
  | true =>
    rw [alone_of_compile h ha hva] at hb
    exact (List.mem_singleton.mp hb).symm
  | false =>
    cases hvb : b.isVariadic with
    | true =>
      rw [alone_of_compile h hb hvb] at ha
      exact List.mem_singleton.mp ha
    | false =>
      have hca := (a.takes_direct hva count).mp hta
      have hcb := (b.takes_direct hvb count).mp htb
      exact CompiledArity.eq_of_arity (ascending_of_compile h) ha hb (by omega)

theorem goes_iff (h : d.compile config types = .ok f) {count : Nat} {a : CompiledArity σ} :
    f.GoesTo count a ↔ a ∈ f.arities ∧ a.takes count = true := by
  constructor
  · exact CompiledFunction.takes_of_goes
  · rintro ⟨ha, ht⟩
    obtain ⟨b, hgo, hb, htb⟩ := CompiledFunction.goes_exists ha ht
    rwa [sole_of_compile h ha hb ht htb]

theorem matched_of_goes (h : d.compile config types = .ok f) {args : List Json}
    {a : CompiledArity σ} (hgo : f.GoesTo args.length a) (enabled : Bool) (state : σ)
    (name : String) (count : Nat) :
    (f.call enabled args state).1.result ≠ .error (.arityMismatch name count) := by
  obtain ⟨ha, -⟩ := (goes_iff h).mp hgo
  obtain ⟨-, b, -, hb⟩ := compile_arity h ha
  rw [CompiledFunction.call_of_goes hgo]
  exact ArityBody.invoke_matches hb enabled args state name count

/-- Every compiled function agrees with its signature. -/
theorem compile_agrees (h : d.compile config types = .ok f) : f.Agrees := by
  refine ⟨ascending_of_compile h, fun a => alone_of_compile h,
    fun count a ha b hb => sole_of_compile h ha hb, fun count a => goes_iff h, ?_, ?_, ?_, ?_⟩
  · intro args a hgo earlier enabled state
    rw [CompiledFunction.call_after, CompiledFunction.call_of_goes hgo]
  · intro args earlier enabled state
    rw [CompiledFunction.call_after]
    constructor
    · rintro ⟨name, count, hm⟩ a ha
      apply Bool.eq_false_iff.mpr
      intro ht
      exact matched_of_goes h ((goes_iff h).mpr ⟨ha, ht⟩) enabled state name count hm
    · intro hnone
      have hp : f.position args.length = none := List.findIdx?_eq_none_iff.mpr hnone
      refine ⟨f.name, args.length, ?_⟩
      rw [CompiledFunction.call, hp]
      rfl
  · intro hv
    have hentries := entries_of_compile h hv
    refine ⟨hentries, fun k s => ?_⟩
    obtain ⟨_, -, -, -, hs, -, -⟩ := compile_ok h
    obtain ⟨_, -, -, -, -, hinput⟩ := Signature.compose_ok hs
    rw [hinput, hentries, List.mem_map]
    constructor
    · rintro ⟨a, ha, he⟩
      cases he
      exact ⟨a, (goes_iff h).mpr ⟨ha, (a.takes_direct (hv a ha) _).mpr rfl⟩, rfl⟩
    · rintro ⟨a, hgo, rfl⟩
      obtain ⟨ha, ht⟩ := (goes_iff h).mp hgo
      rw [(a.takes_direct (hv a ha) k).mp ht]
      exact ⟨a, ha, rfl⟩
  · intro n s hs args haccepts
    obtain ⟨a, ha, ht, rfl⟩ := takes_of_accepted h hs haccepts
    have hgo := (goes_iff h).mpr ⟨ha, ht⟩
    refine ⟨⟨a, hgo, rfl⟩, fun earlier enabled state name count => ?_⟩
    rw [CompiledFunction.call_after]
    exact matched_of_goes h hgo enabled state name count

end FunctionDef

def rangeDef : FunctionDef Counters :=
  let integer : Schema := .obj [("type", .str "integer")]
  ⟨"range", Schema.any, ⟨false, false⟩,
    [⟨[.named "start" (.schema integer) .regular, .named "stop" (.schema integer) .regular],
      .arguments, [], []⟩,
     ⟨[.named "stop" (.schema integer) .regular], .arguments, [], []⟩]⟩

def startStop : ArgumentForm :=
  let integer : Schema := .obj [("type", .str "integer")]
  ⟨[⟨"start", integer, 0, .regular⟩, ⟨"stop", integer, 1, .regular⟩], none,
    Schema.boundedArray [Schema.titled "start" integer, Schema.titled "stop" integer]
      (.bool false) 2 none⟩

def stopOnly : ArgumentForm :=
  let integer : Schema := .obj [("type", .str "integer")]
  ⟨[⟨"stop", integer, 0, .regular⟩], none,
    Schema.boundedArray [Schema.titled "stop" integer] (.bool false) 1 none⟩

def rangeArity (form : ArgumentForm) : CompiledArity Counters :=
  ⟨form, (⟨[], .arguments, [], []⟩ : ArityBody Counters).run true,
    .ofDecision form.input Schema.any .conditional⟩

def rangeFunction : CompiledFunction Counters :=
  ⟨"range", .conditional,
    ⟨Schema.any, .table #[(1, stopOnly.input), (2, startStop.input)]⟩,
    FunctionDef.ordered [rangeArity startStop, rangeArity stopOnly]⟩

theorem range_function_arities :
    rangeFunction.arities = [rangeArity stopOnly, rangeArity startStop] := by
  have h : ¬(rangeArity startStop).arity ≤ (rangeArity stopOnly).arity := by decide
  simp [rangeFunction, FunctionDef.ordered, List.mergeSort, h]

theorem range_def_compile : rangeDef.compile .enabled .empty = .ok rangeFunction := by
  have htwo : ArgumentForm.build .empty [.named "start" (.schema (.obj [("type", .str "integer")]))
      .regular, .named "stop" (.schema (.obj [("type", .str "integer")])) .regular] =
      .ok startStop := by cbv
  have hone : ArgumentForm.build .empty
      [.named "stop" (.schema (.obj [("type", .str "integer")])) .regular] = .ok stopOnly := by cbv
  have hsig : Signature.compose Schema.any [startStop.input, stopOnly.input] =
      .ok rangeFunction.signature := by cbv
  have ha : rangeDef.compileArities .conditional .enabled .empty rangeDef.arities =
      .ok [rangeArity startStop, rangeArity stopOnly] := by
    refine FunctionDef.compile_arities_cons ?_ rfl (FunctionDef.compile_arities_cons ?_ rfl rfl)
    · rw [ArityBody.compile, htwo]
      rfl
    · rw [ArityBody.compile, hone]
      rfl
  exact FunctionDef.compile_of_arities (by simp [rangeDef]) rfl rfl ha hsig

theorem compile_agrees_range :
    rangeFunction.GoesTo 1 (rangeArity stopOnly) ∧ rangeFunction.GoesTo 2 (rangeArity startStop) ∧
      ∃ name count, (rangeFunction.call true [.null, .null, .null] fun _ => 0).1.result =
        .error (.arityMismatch name count) := by
  have h := FunctionDef.compile_agrees range_def_compile
  have hstop : rangeArity stopOnly ∈ rangeFunction.arities := List.mem_mergeSort.mpr (by simp)
  have hstart : rangeArity startStop ∈ rangeFunction.arities := List.mem_mergeSort.mpr (by simp)
  refine ⟨(h.goes _ _).mpr ⟨hstop, rfl⟩, (h.goes _ _).mpr ⟨hstart, rfl⟩,
    (h.mismatched [.null, .null, .null] [] true fun _ => 0).mpr fun a ha => ?_⟩
  have hm : a ∈ [rangeArity startStop, rangeArity stopOnly] := List.mem_mergeSort.mp ha
  rcases List.mem_cons.mp hm with rfl | hm
  · rfl
  · rw [List.mem_singleton.mp hm]
    rfl

end CallContract
