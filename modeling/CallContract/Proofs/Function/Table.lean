import CallContract.Proofs.Function.Signature

/-!
# Signatures do not depend on the order of their inputs

Inputs have a signature if there are any, all of them are tuples and no two have
the same number of elements. It is a table of exactly these inputs, so the order
in which they are given is lost. So it is when a number is taken twice: the
least such number is reported. Only which input is the first that is no tuple
depends on the order.
-/

set_option autoImplicit false

namespace CallContract.Signature

variable {output : Schema} {inputs : List Schema} {rows : List (Nat × Schema)}

theorem keyed_iff : keyed inputs = .ok rows ↔
    rows.map (fun row => (some row.1, row.2)) = inputs.map fun s => (Schema.tupleLength? s, s) := by
  induction inputs generalizing rows with
  | nil =>
    constructor
    · intro h
      cases h
      rfl
    · intro h
      rw [List.map_eq_nil_iff.mp h]
      rfl
  | cons input rest ih =>
    rw [keyed_cons, List.map_cons]
    constructor
    · rintro ⟨n, more, hn, hm, rfl⟩
      rw [List.map_cons, ih.mp hm, hn]
    · intro h
      cases rows with
      | nil => cases h
      | cons row more =>
        obtain ⟨hrow, hmore⟩ := List.cons.inj h
        obtain ⟨hn, hs⟩ := Prod.mk.inj hrow
        exact ⟨row.1, more, hn.symm, ih.mpr hmore, by rw [← hs]⟩

theorem lengths_of_keyed (h : keyed inputs = .ok rows) :
    inputs.map Schema.tupleLength? = (rows.map (·.1)).map some := by
  have hfirst := congrArg (List.map Prod.fst) (keyed_iff.mp h)
  simpa [List.map_map, Function.comp_def] using hfirst.symm

theorem keyed_of_tuples (h : ∀ s ∈ inputs, (Schema.tupleLength? s).isSome = true) :
    ∃ rows, keyed inputs = .ok rows := by
  have hkeyed := keyed_map id (fun s => (Schema.tupleLength? s).getD 0) inputs fun s hs => by
    obtain ⟨n, hn⟩ := Option.isSome_iff_exists.mp (h s hs)
    rw [id, hn, Option.getD_some]
  rw [List.map_id] at hkeyed
  exact ⟨_, hkeyed⟩

theorem tuples_of_keyed (h : keyed inputs = .ok rows) {s : Schema} (hs : s ∈ inputs) :
    (Schema.tupleLength? s).isSome = true := by
  have hmem : Schema.tupleLength? s ∈ (rows.map (·.1)).map some :=
    lengths_of_keyed h ▸ List.mem_map_of_mem hs
  obtain ⟨n, -, hn⟩ := List.mem_map.mp hmem
  rw [← hn]
  rfl

theorem keyed_stray {s : Schema}
    (h : inputs.find? (fun s => (Schema.tupleLength? s).isNone) = some s) :
    keyed inputs = .error (.schema (.notATuple s)) := by
  induction inputs with
  | nil => cases h
  | cons input rest ih =>
    unfold keyed arityOf
    cases hn : Schema.tupleLength? input with
    | none =>
      rw [List.find?_cons_of_pos (by rw [hn]; rfl)] at h
      cases h
      rfl
    | some n =>
      rw [List.find?_cons_of_neg (by rw [hn]; exact Bool.false_ne_true)] at h
      rw [ih h]
      rfl

def LeastTaken (inputs : List Schema) (n : Nat) : Prop :=
  1 < (inputs.map Schema.tupleLength?).count (some n) ∧
    ∀ m, 1 < (inputs.map Schema.tupleLength?).count (some m) → n ≤ m

theorem least_taken_iff (h : keyed inputs = .ok rows) (n : Nat) :
    LeastTaken inputs n ↔ leastRepeated? (rows.map (·.1)) = some n := by
  have hcount (m : Nat) : (inputs.map Schema.tupleLength?).count (some m) =
      (rows.map (·.1)).count m := by
    rw [lengths_of_keyed h]
    exact List.count_map_of_injective _ _ (Option.some_injective _) m
  rw [LeastTaken, least_repeated_some]
  simp only [hcount]

/-- The signature lists the inputs by their numbers of elements, and looks them up by these. -/
structure Lists (sig : Signature) (inputs : List Schema) : Prop where
  rows : (sig.entries.map fun row => (some row.1, row.2)).Perm
    (inputs.map fun s => (Schema.tupleLength? s, s))
  ascending : Ascending sig.entries
  keys : sig.arities = sig.entries.map (·.1)
  lookup : ∀ n s, sig.input n = some s ↔ (n, s) ∈ sig.entries

theorem lists_of_compose {sig : Signature} (h : compose output inputs = .ok sig) :
    sig.Lists inputs := by
  obtain ⟨rows, hk, -, hentries, hascending, hlookup⟩ := compose_ok h
  refine ⟨?_, hascending, rfl, hlookup⟩
  rw [hentries, ← keyed_iff.mp hk]
  exact (List.mergeSort_perm rows _).map _

theorem rows_of_inputs (h : keyed inputs = .ok rows) : rows ≠ [] ↔ inputs ≠ [] := by
  rw [← keyed_inputs h, ne_eq, ne_eq, List.map_eq_nil_iff]

theorem inputs_of_compose {sig : Signature} (h : compose output inputs = .ok sig) :
    inputs ≠ [] := by
  rintro rfl
  cases h

theorem compose_succeeds : (∃ sig, compose output inputs = .ok sig) ↔ inputs ≠ [] ∧
    (∀ s ∈ inputs, (Schema.tupleLength? s).isSome = true) ∧
    (inputs.map Schema.tupleLength?).Nodup := by
  have hdistinct {rows : List (Nat × Schema)} (hk : keyed inputs = .ok rows)
      (hsome : inputs ≠ []) :
      (∃ sig, compose output inputs = .ok sig) ↔ (inputs.map Schema.tupleLength?).Nodup := by
    rw [(compose_of_keyed hk ((rows_of_inputs hk).mpr hsome)).ok_iff, Option.toList_eq_nil_iff,
      Option.map_eq_none_iff, least_repeated_none, lengths_of_keyed hk,
      List.nodup_map_iff (Option.some_injective _)]
  constructor
  · rintro ⟨sig, h⟩
    obtain ⟨rows, hk, -⟩ := compose_ok h
    exact ⟨inputs_of_compose h, fun s => tuples_of_keyed hk,
      (hdistinct hk (inputs_of_compose h)).mp ⟨sig, h⟩⟩
  · rintro ⟨hsome, htuples, hnodup⟩
    obtain ⟨rows, hk⟩ := keyed_of_tuples htuples
    exact (hdistinct hk hsome).mpr hnodup

/-- If tuples have no signature, a number of elements is taken twice. -/
theorem taken_of_compose (hk : keyed inputs = .ok rows) (hsome : inputs ≠ [])
    {e : DefinitionError} (h : compose output inputs = .error e) :
    ∃ n, LeastTaken inputs n ∧ e = .duplicateArity n := by
  have hfirst := (compose_of_keyed hk ((rows_of_inputs hk).mpr hsome) e).mp h
  cases hl : leastRepeated? (rows.map (·.1)) with
  | none =>
    rw [hl] at hfirst
    cases hfirst
  | some n =>
    rw [hl] at hfirst
    cases hfirst
    exact ⟨n, (least_taken_iff hk n).mpr hl, rfl⟩

/-- Inputs have a signature exactly if there are any, all are tuples and no two have the same number
of elements. The signature lists them, whatever their order. Otherwise the least number that is
taken twice is reported, whatever the order; or the first input that is no tuple. -/
theorem compose_canonical (output : Schema) (inputs : List Schema) :
    ((∃ sig, compose output inputs = .ok sig) ↔ inputs ≠ [] ∧
      (∀ s ∈ inputs, (Schema.tupleLength? s).isSome = true) ∧
      (inputs.map Schema.tupleLength?).Nodup) ∧
    (∀ sig, compose output inputs = .ok sig → sig.output = output ∧ sig.Lists inputs ∧
      ∀ inputs', inputs.Perm inputs' → compose output inputs' = .ok sig) ∧
    (inputs ≠ [] → (∀ s ∈ inputs, (Schema.tupleLength? s).isSome = true) →
      ∀ e, compose output inputs = .error e →
        (∃ n, LeastTaken inputs n ∧ e = .duplicateArity n) ∧
        ∀ inputs', inputs.Perm inputs' → compose output inputs' = .error e) ∧
    ∀ s, inputs.find? (fun s => (Schema.tupleLength? s).isNone) = some s →
      compose output inputs = .error (.schema (.notATuple s)) := by
  refine ⟨compose_succeeds, fun sig h => ?_, fun hsome htuples e h => ?_, fun s hs => ?_⟩
  · obtain ⟨rows, hk, houtput, -⟩ := compose_ok h
    exact ⟨houtput, lists_of_compose h, fun inputs' hp => (compose_perm hp hk).trans h⟩
  · obtain ⟨rows, hk⟩ := keyed_of_tuples htuples
    exact ⟨taken_of_compose hk hsome h, fun inputs' hp => (compose_perm hp hk).trans h⟩
  · rw [compose, keyed_stray hs]
    rfl

def wide (n : Nat) : Schema := Schema.tuple (List.replicate n (Schema.any, []))

theorem compose_canonical_wide :
    compose Schema.any [wide 3, wide 1, wide 3, wide 1] = .error (.duplicateArity 1) ∧
    ∃ sig, compose Schema.any [wide 3, wide 1] = .ok sig ∧
      sig.input 3 = some (wide 3) ∧ sig.input 2 = none := by
  obtain ⟨hsome, -, hrepeat, -⟩ :=
    compose_canonical Schema.any [wide 3, wide 1, wide 3, wide 1]
  obtain ⟨hok, hlists, -, -⟩ := compose_canonical Schema.any [wide 3, wide 1]
  constructor
  · cases hc : compose Schema.any [wide 3, wide 1, wide 3, wide 1] with
    | ok sig => exact absurd (hsome.mp ⟨sig, hc⟩).2.2 (by decide)
    | error e =>
      obtain ⟨⟨n, ⟨htwice, hleast⟩, rfl⟩, -⟩ := hrepeat (by simp) (by decide) e hc
      have hn : n ≤ 1 := hleast 1 (by decide)
      have h0 : n ≠ 0 := by
        rintro rfl
        exact absurd htwice (by decide)
      rw [show n = 1 by omega]
  · obtain ⟨sig, h⟩ := hok.mpr ⟨by simp, by decide, by decide⟩
    obtain ⟨-, hsig, -⟩ := hlists sig h
    have hrow (n : Nat) (s : Schema) : sig.input n = some s ↔
        (some n, s) ∈ [wide 3, wide 1].map fun s => (Schema.tupleLength? s, s) := by
      rw [hsig.lookup, ← hsig.rows.mem_iff]
      simp
    refine ⟨sig, h, (hrow 3 _).mpr (by decide), ?_⟩
    refine Option.eq_none_iff_forall_ne_some.mpr fun s hs => ?_
    have hlength : some 2 ∈ [wide 3, wide 1].map Schema.tupleLength? := by
      simpa using List.mem_map_of_mem (f := Prod.fst) ((hrow 2 s).mp hs)
    exact absurd hlength (by decide)

end CallContract.Signature
