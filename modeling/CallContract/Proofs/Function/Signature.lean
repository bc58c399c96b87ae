import CallContract.Function.Signature
import CallContract.Proofs.Outcome

/-!
# Signatures are ascending tables

The rows of a signature are the inputs with their arities, in strictly
ascending order. The binary search finds exactly the rows that are there. What
composing refuses is the least number that stands there twice.
-/

set_option autoImplicit false

namespace CallContract.Signature

def Ascending (rows : List (Nat × Schema)) : Prop := rows.Pairwise fun a b => a.1 < b.1

theorem ascending_lt {rows : Array (Nat × Schema)} (h : Ascending rows.toList) {i j : Nat}
    {a b : Nat × Schema} (hij : i < j) (ha : rows[i]? = some a) (hb : rows[j]? = some b) :
    a.1 < b.1 := by
  rw [← Array.getElem?_toList] at ha hb
  obtain ⟨hi, rfl⟩ := List.getElem?_eq_some_iff.mp ha
  obtain ⟨hj, rfl⟩ := List.getElem?_eq_some_iff.mp hb
  exact List.pairwise_iff_getElem.mp h i j hi hj hij

theorem ascending_lt_iff {rows : Array (Nat × Schema)} (h : Ascending rows.toList) {i j : Nat}
    {a b : Nat × Schema} (ha : rows[i]? = some a) (hb : rows[j]? = some b) :
    i < j ↔ a.1 < b.1 := by
  refine ⟨fun hij => ascending_lt h hij ha hb, fun hab => ?_⟩
  rcases Nat.lt_trichotomy i j with hij | rfl | hji
  · exact hij
  · cases ha.symm.trans hb
    exact absurd hab (Nat.lt_irrefl _)
  · exact absurd hab (Nat.lt_asymm (ascending_lt h hji hb ha))

theorem search_mem {rows : Array (Nat × Schema)} {key low high : Nat} {s : Schema}
    (h : search rows key low high = some s) : (key, s) ∈ rows.toList := by
  fun_induction search rows key low high with
  | case1 => cases h
  | case2 low high hlt middle input hm =>
    cases h
    rw [← Array.getElem?_toList] at hm
    exact List.mem_of_getElem? hm
  | case3 _ _ _ _ _ _ _ _ _ ih => exact ih h
  | case4 _ _ _ _ _ _ _ _ _ ih => exact ih h
  | case5 => cases h

theorem search_found {rows : Array (Nat × Schema)} (ha : Ascending rows.toList) {key : Nat}
    {s : Schema} {i : Nat} (hi : rows[i]? = some (key, s)) (low high : Nat) (hl : low ≤ i)
    (hh : i < high) (hsize : high ≤ rows.size) : search rows key low high = some s := by
  fun_induction search rows key low high with
  | case1 low high hlt middle hm =>
    have hmiddle : middle < rows.size := by omega
    simp [hmiddle] at hm
  | case2 low high hlt middle input hm =>
    have hbefore := ascending_lt_iff ha hi hm
    have hbehind := ascending_lt_iff ha hm hi
    obtain rfl : i = middle := by omega
    rw [hm] at hi
    cases hi
    rfl
  | case3 low high hlt middle n input hm hn hlow ih =>
    have hbehind := (ascending_lt_iff ha hm hi).mpr hlow
    exact ih hbehind hh hsize
  | case4 low high hlt middle n input hm hn hlow ih =>
    have hbefore := (ascending_lt_iff ha hi hm).mpr (by omega)
    exact ih hl hbefore (by omega)
  | case5 low high hge => omega

theorem search_iff {rows : Array (Nat × Schema)} (ha : Ascending rows.toList) (key : Nat)
    (s : Schema) : search rows key 0 rows.size = some s ↔ (key, s) ∈ rows.toList := by
  constructor
  · exact search_mem
  · intro h
    obtain ⟨i, hi, hrow⟩ := List.getElem_of_mem h
    have hget : rows[i]? = some (key, s) := by
      rw [← Array.getElem?_toList, List.getElem?_eq_getElem hi, hrow]
    exact search_found ha hget 0 rows.size (Nat.zero_le i) (by simpa using hi) (Nat.le_refl _)

theorem ascending_of_repeated {rows : List (Nat × Schema)} (h : repeated? rows = none)
    (hs : rows.Pairwise fun a b => a.1 ≤ b.1) : Ascending rows := by
  fun_induction repeated? rows with
  | case1 => cases h
  | case2 m s n t rest hne ih =>
    have hrest := ih h (List.pairwise_cons.mp hs).2
    refine List.pairwise_cons.mpr ⟨fun b hb => ?_, hrest⟩
    have hmn : m < n := Nat.lt_of_le_of_ne ((List.pairwise_cons.mp hs).1 (n, t) (by simp)) hne
    rcases List.mem_cons.mp hb with rfl | hb
    · exact hmn
    · exact Nat.lt_trans hmn ((List.pairwise_cons.mp hrest).1 b hb)
  | case3 rows hrows =>
    match rows, hrows with
    | [], _ => exact List.Pairwise.nil
    | [row], _ => exact List.pairwise_singleton _ _
    | (m, s) :: (n, t) :: rest, hrows => exact absurd rfl (hrows m s n t rest)

theorem keyed_cons (input : Schema) (rest : List Schema) (rows : List (Nat × Schema)) :
    keyed (input :: rest) = .ok rows ↔ ∃ n more, Schema.tupleLength? input = some n ∧
      keyed rest = .ok more ∧ rows = (n, input) :: more := by
  simp only [keyed, arityOf]
  cases Schema.tupleLength? input with
  | none => simp [bind, Except.bind]
  | some n =>
    cases keyed rest with
    | error e => simp [bind, Except.bind]
    | ok more => simp [bind, Except.bind, eq_comm]

theorem keyed_map {α : Type} (input : α → Schema) (arity : α → Nat) (xs : List α)
    (h : ∀ x ∈ xs, Schema.tupleLength? (input x) = some (arity x)) :
    keyed (xs.map input) = .ok (xs.map fun x => (arity x, input x)) := by
  induction xs with
  | nil => rfl
  | cons x xs ih =>
    exact (keyed_cons _ _ _).mpr
      ⟨arity x, _, h x (by simp), ih fun y hy => h y (by simp [hy]), rfl⟩

theorem keyed_inputs {inputs : List Schema} {rows : List (Nat × Schema)}
    (h : keyed inputs = .ok rows) : rows.map (·.2) = inputs := by
  induction inputs generalizing rows with
  | nil =>
    cases h
    rfl
  | cons input rest ih =>
    obtain ⟨n, more, -, hm, rfl⟩ := (keyed_cons _ _ _).mp h
    rw [List.map_cons, ih hm]

def sorted (rows : List (Nat × Schema)) : List (Nat × Schema) :=
  rows.mergeSort fun a b => a.1 ≤ b.1

theorem pairwise_by_key {α : Type} (key : α → Nat) (xs : List α) :
    (xs.mergeSort fun a b => key a ≤ key b).Pairwise fun a b => key a ≤ key b := by
  apply (List.pairwise_mergeSort _ _ xs).imp
  · intro a b hab
    exact of_decide_eq_true hab
  · intro a b c hab hbc
    simp only [decide_eq_true_eq] at *
    exact Nat.le_trans hab hbc
  · intro a b
    simp only [Bool.or_eq_true, decide_eq_true_eq]
    exact Nat.le_total (key a) (key b)

/-- With keys of their own, the members of a list have one ascending order. -/
theorem by_key_perm {α : Type} (key : α → Nat) {xs ys : List α} (hp : xs.Perm ys)
    (h : (xs.mergeSort fun a b => key a ≤ key b).Pairwise fun a b => key a < key b) :
    (ys.mergeSort fun a b => key a ≤ key b) = xs.mergeSort fun a b => key a ≤ key b := by
  have hsorted : (ys.mergeSort fun a b => decide (key a ≤ key b)).Perm
      (xs.mergeSort fun a b => key a ≤ key b) :=
    (List.mergeSort_perm ys _).trans (hp.symm.trans (List.mergeSort_perm xs _).symm)
  have hne := (hsorted.pairwise_iff Ne.symm).mpr (h.imp Nat.ne_of_lt)
  have hlt := ((pairwise_by_key key ys).and hne).imp fun hab => Nat.lt_of_le_of_ne hab.1 hab.2
  exact hsorted.eq_of_pairwise (fun a b _ _ hab hba => absurd hab (Nat.lt_asymm hba)) hlt h

theorem sorted_pairwise (rows : List (Nat × Schema)) :
    (sorted rows).Pairwise fun a b => a.1 ≤ b.1 := pairwise_by_key (·.1) rows

theorem compose_ok {output : Schema} {inputs : List Schema} {sig : Signature}
    (h : compose output inputs = .ok sig) :
    ∃ rows, keyed inputs = .ok rows ∧ sig.output = output ∧ sig.entries = sorted rows ∧
      Ascending sig.entries ∧ ∀ n s, sig.input n = some s ↔ (n, s) ∈ sig.entries := by
  obtain ⟨rows, hk, h⟩ := bind_ok.mp h
  refine ⟨rows, hk, ?_⟩
  match rows, h with
  | [(n, input)], h =>
    cases h
    refine ⟨rfl, (List.mergeSort_singleton _).symm, List.pairwise_singleton _ _, fun m s => ?_⟩
    simp only [Signature.input, entries, List.mem_singleton, Prod.mk.injEq]
    by_cases hn : n = m
    · simp [hn, eq_comm]
    · simp [hn, Ne.symm hn]
  | a :: b :: rest, h =>
    dsimp only at h
    split at h
    · cases h
    · rename_i hr
      have hs := ascending_of_repeated hr (sorted_pairwise _)
      cases h
      exact ⟨rfl, rfl, hs, search_iff hs⟩

def leastRepeated? (ns : List Nat) : Option Nat := (ns.filter fun n => 1 < ns.count n).min?

theorem least_repeated_some {ns : List Nat} {n : Nat} :
    leastRepeated? ns = some n ↔
      1 < ns.count n ∧ ∀ m, 1 < ns.count m → n ≤ m := by
  have hmem (m : Nat) : m ∈ ns.filter (fun n => 1 < ns.count n) ↔ 1 < ns.count m := by
    rw [List.mem_filter, decide_eq_true_iff]
    exact ⟨And.right, fun h => ⟨List.count_pos_iff.mp (by omega), h⟩⟩
  rw [leastRepeated?, List.min?_eq_some_iff, hmem]
  simp only [hmem]

theorem least_repeated_none {ns : List Nat} : leastRepeated? ns = none ↔ ns.Nodup := by
  rw [leastRepeated?, List.min?_eq_none_iff, List.filter_eq_nil_iff, List.nodup_iff_count_le_one]
  simp only [decide_eq_true_iff, Nat.not_lt]
  constructor
  · intro h n
    by_cases hn : n ∈ ns
    · exact h n hn
    · rw [List.count_eq_zero_of_not_mem hn]
      exact Nat.zero_le 1
  · exact fun h n _ => h n

theorem least_repeated_congr {ns ms : List Nat} (h : ∀ n, 1 < ns.count n ↔ 1 < ms.count n) :
    leastRepeated? ns = leastRepeated? ms := by
  refine Option.ext fun n => ?_
  rw [least_repeated_some, least_repeated_some]
  simp only [h]

theorem least_repeated_perm {ns ms : List Nat} (h : ns.Perm ms) :
    leastRepeated? ns = leastRepeated? ms :=
  least_repeated_congr fun n => by rw [h.count_eq]

theorem least_repeated_cons {m : Nat} {ns : List Nat} (h : m ∉ ns) :
    leastRepeated? (m :: ns) = leastRepeated? ns := by
  refine least_repeated_congr fun n => ?_
  by_cases hn : n = m
  · subst hn
    rw [List.count_cons_self, List.count_eq_zero_of_not_mem h]
    omega
  · rw [List.count_cons_of_ne (Ne.symm hn)]

/-- In an ascending table, the first number that stands next to itself is the least one that is
there twice. -/
theorem repeated_eq {rows : List (Nat × Schema)} (hs : rows.Pairwise fun a b => a.1 ≤ b.1) :
    repeated? rows = leastRepeated? (rows.map (·.1)) := by
  fun_induction repeated? rows with
  | case1 s m t rest =>
    refine (least_repeated_some.mpr ⟨by simp, fun k hk => ?_⟩).symm
    have hmem : k ∈ ((m, s) :: (m, t) :: rest).map (·.1) := List.count_pos_iff.mp (by omega)
    rw [List.map_cons, List.mem_cons] at hmem
    rcases hmem with rfl | hmem
    · exact Nat.le_refl _
    · obtain ⟨row, hrow, rfl⟩ := List.mem_map.mp hmem
      exact (List.pairwise_cons.mp hs).1 row hrow
  | case2 m s n t rest hne ih =>
    have hm := (List.pairwise_cons.mp hs).1
    have hrest := (List.pairwise_cons.mp hs).2
    rw [ih hrest]
    -- the first number is below all others, so it is not there again
    have hout : m ∉ ((n, t) :: rest).map (·.1) := by
      intro hmem
      have hmn : m < n := Nat.lt_of_le_of_ne (hm (n, t) (by simp)) hne
      obtain ⟨row, hrow, he⟩ := List.mem_map.mp hmem
      have hn : n ≤ row.1 := by
        rcases List.mem_cons.mp hrow with rfl | hrow
        · exact Nat.le_refl _
        · exact (List.pairwise_cons.mp hrest).1 row hrow
      omega
    exact (least_repeated_cons hout).symm
  | case3 rows hrows =>
    refine (least_repeated_none.mpr ?_).symm
    match rows, hrows with
    | [], _ => exact List.nodup_nil
    | [row], _ => exact List.nodup_singleton _
    | (m, s) :: (n, t) :: rest, hrows => exact absurd rfl (hrows m s n t rest)

theorem repeated_sorted (rows : List (Nat × Schema)) :
    repeated? (sorted rows) = leastRepeated? (rows.map (·.1)) := by
  rw [repeated_eq (sorted_pairwise rows)]
  exact least_repeated_perm ((List.mergeSort_perm rows _).map (·.1))

theorem compose_of_many {output : Schema} {inputs : List Schema} {rows : List (Nat × Schema)}
    (hk : keyed inputs = .ok rows) (hmany : 2 ≤ rows.length) : compose output inputs =
      match leastRepeated? (rows.map (·.1)) with
      | some n => .error (.duplicateArity n)
      | none => .ok ⟨output, .table (sorted rows).toArray⟩ := by
  rw [← repeated_sorted, compose, hk]
  match rows, hmany with
  | a :: b :: rest, _ => rfl

theorem compose_of_keyed {output : Schema} {inputs : List Schema} {rows : List (Nat × Schema)}
    (h : keyed inputs = .ok rows) (hne : rows ≠ []) :
    FailsFirst ((leastRepeated? (rows.map (·.1))).map .duplicateArity).toList
      (compose output inputs) := by
  intro e
  by_cases hmany : 2 ≤ rows.length
  · rw [compose_of_many h hmany]
    cases leastRepeated? (rows.map (·.1)) <;> simp
  · match rows, hne, hmany with
    | [row], _, _ =>
      rw [compose, h, List.map_singleton, least_repeated_none.mpr (List.nodup_singleton _)]
      simp [bind, Except.bind]
    | a :: b :: rest, _, hmany => simp at hmany

theorem keyed_perm {inputs inputs' : List Schema} (hp : inputs.Perm inputs')
    {rows : List (Nat × Schema)} (hk : keyed inputs = .ok rows) :
    ∃ rows', keyed inputs' = .ok rows' ∧ rows.Perm rows' := by
  induction hp generalizing rows with
  | nil => exact ⟨rows, hk, .refl _⟩
  | cons input _ ih =>
    obtain ⟨n, more, hn, hm, rfl⟩ := (keyed_cons _ _ _).mp hk
    obtain ⟨more', hm', hp⟩ := ih hm
    exact ⟨_, (keyed_cons _ _ _).mpr ⟨n, more', hn, hm', rfl⟩, hp.cons _⟩
  | swap first second rest =>
    obtain ⟨n, _, hn, hfirst, rfl⟩ := (keyed_cons _ _ _).mp hk
    obtain ⟨m, more, hm, hmore, rfl⟩ := (keyed_cons _ _ _).mp hfirst
    have hswapped := (keyed_cons second rest _).mpr ⟨n, more, hn, hmore, rfl⟩
    exact ⟨_, (keyed_cons _ _ _).mpr ⟨m, _, hm, hswapped, rfl⟩, .swap _ _ _⟩
  | trans _ _ ih ih' =>
    obtain ⟨middle, hmiddle, hp⟩ := ih hk
    obtain ⟨last, hlast, hp'⟩ := ih' hmiddle
    exact ⟨last, hlast, hp.trans hp'⟩

/-- The order of the inputs does not matter. -/
theorem compose_perm {output : Schema} {inputs inputs' : List Schema} (hp : inputs.Perm inputs')
    {rows : List (Nat × Schema)} (hk : keyed inputs = .ok rows) :
    compose output inputs' = compose output inputs := by
  obtain ⟨rows', hk', hrows⟩ := keyed_perm hp hk
  have hlength := hrows.length_eq
  by_cases hmany : 2 ≤ rows.length
  · rw [compose_of_many hk hmany, compose_of_many hk' (hlength ▸ hmany),
      least_repeated_perm (hrows.map (·.1)).symm]
    cases hl : leastRepeated? (rows.map (·.1)) with
    | some n => rfl
    | none =>
      have ha := ascending_of_repeated ((repeated_sorted rows).trans hl) (sorted_pairwise rows)
      have hsorted : sorted rows' = sorted rows := by_key_perm Prod.fst hrows ha
      simp only [hsorted]
  · have hone : rows' = rows := by
      match rows, hmany with
      | [], _ => exact List.perm_nil.mp hrows.symm
      | [row], _ => exact List.perm_singleton.mp hrows.symm
      | a :: b :: rest, hmany => simp at hmany
    rw [compose, compose, hk, hk', hone]

end CallContract.Signature
