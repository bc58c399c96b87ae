import Mathlib
import CallContract.Registry.Sharing

/-!
# Registries shared by clones

A registry is a finite map from types to schemas. Handles that are connected by
cloning stand for one registry, and no operation through another handle reaches
it. What is bound to a type is told by the operations alone: it is the schema of
the latest store through a connected handle, unless a removal follows.
-/

set_option autoImplicit false

namespace CallContract

namespace Registry

def Distinct (r : Registry) : Prop := (r.entries.map (·.1)).Nodup

@[simp] theorem lookup_empty (t : TypeToken) : empty.lookup t = none := rfl

theorem lookup_erase (r : Registry) (t u : TypeToken) :
    (r.erase t).lookup u = if u = t then none else r.lookup u := by
  obtain ⟨entries⟩ := r
  unfold erase lookup
  dsimp only
  induction entries with
  | nil => simp
  | cons e rest ih =>
    obtain ⟨v, s⟩ := e
    by_cases hv : v = t
    · subst hv
      rw [List.filter_cons_of_neg (by simp), ih, List.lookup_cons]
      by_cases hu : u = v
      · rw [if_pos hu, if_pos hu]
      · rw [if_neg hu, if_neg hu, beq_false_of_ne hu]
    · rw [List.filter_cons_of_pos (by simpa using hv), List.lookup_cons, List.lookup_cons, ih]
      by_cases hu : u = v
      · simp [hu, hv]
      · rw [beq_false_of_ne hu]

theorem lookup_insert (r : Registry) (t u : TypeToken) (s : Schema) :
    (r.insert t s).lookup u = if u = t then some s else r.lookup u := by
  have herase := r.lookup_erase t u
  unfold lookup at herase
  unfold insert lookup
  rw [List.lookup_cons, herase]
  by_cases hu : u = t
  · simp [hu]
  · rw [if_neg hu, if_neg hu, beq_false_of_ne hu]

theorem distinct_empty : empty.Distinct := List.nodup_nil

theorem Distinct.erase {r : Registry} (h : r.Distinct) (t : TypeToken) : (r.erase t).Distinct :=
  h.sublist (List.filter_sublist.map _)

theorem Distinct.insert {r : Registry} (h : r.Distinct) (t : TypeToken) (s : Schema) :
    (r.insert t s).Distinct := by
  refine List.nodup_cons.mpr ⟨fun hmem => ?_, h.erase t⟩
  obtain ⟨e, he, het⟩ := List.mem_map.mp hmem
  exact absurd het (by simpa using (List.mem_filter.mp he).2)

theorem Distinct.size {r : Registry} (h : r.Distinct) :
    ∃ tokens : Finset TypeToken, (∀ t, t ∈ tokens ↔ ∃ s, r.lookup t = some s) ∧
      r.size = tokens.card := by
  refine ⟨(r.entries.map (·.1)).toFinset, fun t => ?_, ?_⟩
  · rw [List.mem_toFinset, List.mem_map, ← Option.isSome_iff_exists, lookup, List.lookup_isSome_iff]
    refine exists_congr fun e => and_congr_right fun _ => ?_
    rw [beq_iff_eq, eq_comm]
  · rw [List.toFinset_card_of_nodup h, List.length_map, Registry.size]

theorem empty_iff_size (r : Registry) : r.isEmpty = (r.size == 0) := by
  unfold isEmpty size
  cases r.entries <;> rfl

end Registry

namespace Registries

def Operation.makes : Operation → Bool
  | .clone _ => true
  | .new => true
  | _ => false

def Operation.handle? : Operation → Option Nat
  | .store h _ _ => some h
  | .lookup h _ => some h
  | .remove h _ => some h
  | .size h => some h
  | .isEmpty h => some h
  | .clone h => some h
  | .new => none

def made (ops : List Operation) : Nat := 1 + ops.countP Operation.makes

def Proper (ops : List Operation) : Prop :=
  ∀ before op after, ops = before ++ op :: after → ∀ h ∈ op.handle?, h < made before

def ClonedFrom (ops : List Operation) (h h' : Nat) : Prop :=
  ∃ before after, ops = before ++ .clone h :: after ∧ h' = made before

def Connected (ops : List Operation) : Nat → Nat → Prop := Relation.EqvGen (ClonedFrom ops)

def Operation.Stores (t : TypeToken) (s : Schema) (among : Nat → Prop) : Operation → Prop
  | .store h u s' => among h ∧ u = t ∧ s' = s
  | _ => False

def Operation.Changes (t : TypeToken) (among : Nat → Prop) : Operation → Prop
  | .store h u _ => among h ∧ u = t
  | .remove h u => among h ∧ u = t
  | _ => False

/-- The latest of the operations that change the type, through these handles, stores the schema. -/
def Stands (ops : List Operation) (among : Nat → Prop) (t : TypeToken) (s : Schema) : Prop :=
  ∃ before op after, ops = before ++ op :: after ∧ op.Stores t s among ∧
    ∀ later ∈ after, ¬later.Changes t among

def Finds (ops : List Operation) (h : Nat) (t : TypeToken) (found : Option Schema) : Prop :=
  ∀ s, found = some s ↔ Stands ops (Connected ops h) t s

def Binds (ops : List Operation) (h : Nat) (tokens : Finset TypeToken) : Prop :=
  ∀ t, t ∈ tokens ↔ ∃ s, Stands ops (Connected ops h) t s

/-- What there is to answer to an operation after others. -/
inductive Due (ops : List Operation) : Operation → Answer → Prop where
  | store {h : Nat} {t : TypeToken} {found : Option Schema} (hf : Finds ops h t found)
      (s : Schema) : Due ops (.store h t s) (.bound found)
  | lookup {h : Nat} {t : TypeToken} {found : Option Schema} (hf : Finds ops h t found) :
      Due ops (.lookup h t) (.bound found)
  | remove {h : Nat} {t : TypeToken} {found : Option Schema} (hf : Finds ops h t found) :
      Due ops (.remove h t) (.bound found)
  | size {h : Nat} {tokens : Finset TypeToken} (hb : Binds ops h tokens) :
      Due ops (.size h) (.size tokens.card)
  | isEmpty {h : Nat} {tokens : Finset TypeToken} (hb : Binds ops h tokens) :
      Due ops (.isEmpty h) (.isEmpty (tokens.card == 0))
  | clone (h : Nat) : Due ops (.clone h) (.handle (made ops))
  | new : Due ops .new (.handle (made ops))

section Operations

variable {ops : List Operation} {op : Operation} {h h' : Nat} {t : TypeToken} {s : Schema}
  {among among' : Nat → Prop}

theorem concat_split {before after : List Operation} {x : Operation}
    (heq : ops ++ [op] = before ++ x :: after) :
    (before = ops ∧ x = op) ∧ after = [] ∨
      ∃ rest, ops = before ++ x :: rest ∧ after = rest ++ [op] := by
  rcases List.eq_nil_or_concat after with rfl | ⟨rest, last, rfl⟩
  · obtain ⟨hops, hop⟩ := List.append_inj' heq rfl
    exact .inl ⟨⟨hops.symm, (List.cons.inj hop).1.symm⟩, rfl⟩
  · rw [List.concat_eq_append] at heq ⊢
    rw [← List.cons_append, ← List.append_assoc] at heq
    obtain ⟨hops, hop⟩ := List.append_inj' heq rfl
    obtain rfl := List.singleton_inj.mp hop
    exact .inr ⟨rest, hops, rfl⟩

theorem made_append (ops more : List Operation) :
    made (ops ++ more) = made ops + more.countP Operation.makes := by
  rw [made, List.countP_append, made, Nat.add_assoc]

theorem made_concat (ops : List Operation) (op : Operation) :
    made (ops ++ [op]) = made ops + if op.makes then 1 else 0 := by
  rw [made_append, List.countP_singleton]

theorem proper_nil : Proper [] := by
  intro before op after heq
  cases before <;> cases heq

theorem Proper.left {more : List Operation} (hp : Proper (ops ++ more)) : Proper ops := by
  rintro before x after rfl
  exact hp before x (after ++ more) (by simp)

theorem Proper.concat (hp : Proper ops) (hop : ∀ h ∈ op.handle?, h < made ops) :
    Proper (ops ++ [op]) := by
  intro before x after heq
  rcases concat_split heq with ⟨⟨rfl, rfl⟩, -⟩ | ⟨rest, rfl, -⟩
  · exact hop
  · exact hp before x rest rfl

theorem Proper.last (hp : Proper (ops ++ [op])) : ∀ h ∈ op.handle?, h < made ops :=
  hp ops op [] rfl

theorem Proper.lt_made (hp : Proper ops) (hop : op ∈ ops) : ∀ h ∈ op.handle?, h < made ops := by
  obtain ⟨before, after, rfl⟩ := List.append_of_mem hop
  intro h hh
  have := hp before op after rfl h hh
  rw [made_append]
  omega

theorem stores_congr (heq : ∀ k ∈ op.handle?, among k ↔ among' k) :
    op.Stores t s among ↔ op.Stores t s among' := by
  cases op with
  | store k u s' => exact and_congr_left' (heq k rfl)
  | _ => exact Iff.rfl

theorem changes_congr (heq : ∀ k ∈ op.handle?, among k ↔ among' k) :
    op.Changes t among ↔ op.Changes t among' := by
  cases op with
  | store k u s' => exact and_congr_left' (heq k rfl)
  | remove k u => exact and_congr_left' (heq k rfl)
  | _ => exact Iff.rfl

theorem stands_congr (heq : ∀ op ∈ ops, ∀ k ∈ op.handle?, among k ↔ among' k) :
    Stands ops among t s ↔ Stands ops among' t s := by
  refine exists₃_congr fun before op after => and_congr_right fun hops => ?_
  subst hops
  refine and_congr (stores_congr (heq op (by simp))) (forall₂_congr fun later hl => not_congr ?_)
  exact changes_congr (heq later (by simp [hl]))

theorem stands_nil : ¬Stands [] among t s := by
  rintro ⟨before, op, after, heq, -⟩
  cases before <;> cases heq

/-- A further operation stores what stands from then on, or leaves what stood. -/
theorem stands_concat : Stands (ops ++ [op]) among t s ↔
    op.Stores t s among ∨ Stands ops among t s ∧ ¬op.Changes t among := by
  constructor
  · rintro ⟨before, x, after, heq, hstores, hafter⟩
    rcases concat_split heq with ⟨⟨-, rfl⟩, -⟩ | ⟨rest, rfl, rfl⟩
    · exact .inl hstores
    · exact .inr ⟨⟨before, x, rest, rfl, hstores, fun later hl => hafter later (by simp [hl])⟩,
        hafter op (by simp)⟩
  · rintro (hstores | ⟨⟨before, x, after, rfl, hstores, hafter⟩, hkeeps⟩)
    · exact ⟨ops, op, [], rfl, hstores, fun _ hl => nomatch hl⟩
    · refine ⟨before, x, after ++ [op], by simp, hstores, fun later hl => ?_⟩
      rcases List.mem_append.mp hl with hl | hl
      · exact hafter later hl
      · rw [List.mem_singleton.mp hl]
        exact hkeeps

theorem cloned_from_concat : ClonedFrom (ops ++ [op]) h h' ↔
    ClonedFrom ops h h' ∨ op = .clone h ∧ h' = made ops := by
  constructor
  · rintro ⟨before, after, heq, rfl⟩
    rcases concat_split heq with ⟨⟨rfl, rfl⟩, -⟩ | ⟨rest, rfl, -⟩
    · exact .inr ⟨rfl, rfl⟩
    · exact .inl ⟨before, rest, rfl, rfl⟩
  · rintro (⟨before, after, rfl, rfl⟩ | ⟨rfl, rfl⟩)
    · exact ⟨before, after ++ [op], by simp, rfl⟩
    · exact ⟨ops, [], rfl, rfl⟩

theorem connected_concat (hc : Connected ops h h') : Connected (ops ++ [op]) h h' :=
  Relation.EqvGen.mono (fun _ _ hcloned => cloned_from_concat.mpr (.inl hcloned)) _ _ hc

end Operations

/-- What the registries behind the handles have to do with the operations that led to them. -/
structure Kept (ops : List Operation) (rs : Registries) : Prop where
  count : rs.handles.length = made ops
  backed : ∀ i ∈ rs.handles, i < rs.stores.length
  cloned : ∀ h h', ClonedFrom ops h h' → ∃ i, rs.handles[h]? = some i ∧ rs.handles[h']? = some i
  joined : ∀ h h' i, rs.handles[h]? = some i → rs.handles[h']? = some i → Connected ops h h'
  distinct : ∀ r ∈ rs.stores, r.Distinct
  bound : ∀ i r, rs.stores[i]? = some r → ∀ t s,
    r.lookup t = some s ↔ Stands ops (fun h => rs.handles[h]? = some i) t s

section Steps

variable {ops : List Operation} {op : Operation} {rs : Registries} {h h' i : Nat} {t : TypeToken}

theorem kept_start : Kept [] start := by
  refine ⟨rfl, by simp [start], ?_, ?_, ?_, ?_⟩
  · rintro h h' ⟨before, after, heq, -⟩
    cases before <;> cases heq
  · intro h h' i hh hh'
    have hzero {k : Nat} (hk : start.handles[k]? = some i) : k = 0 := by
      have := (List.getElem?_eq_some_iff.mp hk).1
      simpa [start] using this
    rw [hzero hh, hzero hh']
    exact .refl 0
  · intro r hr
    rw [List.mem_singleton.mp hr]
    exact Registry.distinct_empty
  · intro i r hr t s
    refine iff_of_false ?_ stands_nil
    have hr := List.mem_singleton.mp (List.mem_of_getElem? hr)
    simp [hr]

theorem Kept.same (hk : Kept ops rs) (hc : Connected ops h h') :
    rs.handles[h]? = rs.handles[h']? := by
  induction hc with
  | rel h h' hcloned =>
    obtain ⟨i, hh, hh'⟩ := hk.cloned h h' hcloned
    rw [hh, hh']
  | refl h => rfl
  | symm h h' _ ih => exact ih.symm
  | trans h k h' _ _ ih ih' => exact ih.trans ih'

theorem Kept.connected_iff (hk : Kept ops rs) (hh : rs.handles[h]? = some i) :
    rs.handles[h']? = some i ↔ Connected ops h h' :=
  ⟨hk.joined h h' i hh, fun hc => (hk.same hc).symm.trans hh⟩

theorem Kept.handle (hk : Kept ops rs) (hh : h < made ops) :
    ∃ i r, rs.handles[h]? = some i ∧ rs.stores[i]? = some r ∧ rs.behind h = r := by
  rw [← hk.count] at hh
  have hi := hk.backed _ (List.getElem_mem hh)
  refine ⟨_, _, List.getElem?_eq_getElem hh, List.getElem?_eq_getElem hi, ?_⟩
  rw [behind, List.getElem?_eq_getElem hh, Option.bind_some, List.getElem?_eq_getElem hi]
  rfl

theorem Kept.unmade (hk : Kept ops rs) (hm : op.makes = false) {stores : List Registry}
    (hlength : stores.length = rs.stores.length) (hd : ∀ r ∈ stores, r.Distinct)
    (hb : ∀ i r, stores[i]? = some r → ∀ t s, r.lookup t = some s ↔
      op.Stores t s (fun h => rs.handles[h]? = some i) ∨
        Stands ops (fun h => rs.handles[h]? = some i) t s ∧
          ¬op.Changes t fun h => rs.handles[h]? = some i) :
    Kept (ops ++ [op]) { rs with stores } := by
  refine ⟨?_, fun i hi => ?_, fun h h' hc => ?_, fun h h' i hh hh' => ?_, hd, ?_⟩
  · rw [made_concat, hm]
    exact hk.count
  · rw [hlength]
    exact hk.backed i hi
  · rcases cloned_from_concat.mp hc with hc | ⟨rfl, -⟩
    · exact hk.cloned h h' hc
    · cases hm
  · exact connected_concat (hk.joined h h' i hh hh')
  · intro i r hr t s
    exact (hb i r hr t s).trans stands_concat.symm

theorem Kept.change (hk : Kept ops rs) (hm : op.makes = false) (hh : h < made ops)
    {f : Registry → Registry} {found : Option Schema} (hd : ∀ r, r.Distinct → (f r).Distinct)
    (hf : ∀ r u, (f r).lookup u = if u = t then found else r.lookup u)
    (hs : ∀ u s among, op.Stores u s among ↔ (among h ∧ t = u) ∧ found = some s)
    (hc : ∀ u among, op.Changes u among ↔ among h ∧ t = u) :
    Kept (ops ++ [op]) (rs.change h f) := by
  obtain ⟨i, _, hi, -, -⟩ := hk.handle hh
  have hchange : rs.change h f = { rs with stores := rs.stores.modify i f } := by
    rw [Registries.change, hi]
  rw [hchange]
  refine hk.unmade hm (List.length_modify ..) (fun r hr => ?_) fun j r hr u s => ?_
  · obtain ⟨j, hj⟩ := List.mem_iff_getElem?.mp hr
    rw [List.getElem?_modify] at hj
    obtain ⟨r', hr', rfl⟩ := Option.map_eq_some_iff.mp hj
    have hdr := hk.distinct r' (List.mem_of_getElem? hr')
    split
    · exact hd r' hdr
    · exact hdr
  · rw [List.getElem?_modify] at hr
    obtain ⟨r', hr', rfl⟩ := Option.map_eq_some_iff.mp hr
    rw [hs, hc, ← hk.bound j r' hr', hi, Option.some.injEq]
    by_cases hij : i = j
    · rw [if_pos hij, hf]
      by_cases hu : u = t
      · simp [hij, hu]
      · simp [hu, Ne.symm hu]
    · simp [hij]

theorem at_concat {handles : List Nat} {j : Nat} : (handles ++ [j])[h]? = some i ↔
    handles[h]? = some i ∨ h = handles.length ∧ j = i := by
  rcases Nat.lt_trichotomy h handles.length with hlt | rfl | hgt
  · rw [List.getElem?_append_left hlt, or_iff_left fun he => by omega]
  · simp
  · rw [List.getElem?_append_right (by omega), List.getElem?_eq_none (by simp; omega),
      List.getElem?_eq_none (by omega)]
    simp; omega

theorem Kept.stands_grown (hk : Kept ops rs) (hp : Proper ops) (j i : Nat) (s : Schema) :
    Stands ops (fun h => (rs.handles ++ [j])[h]? = some i) t s ↔
      Stands ops (fun h => rs.handles[h]? = some i) t s := by
  refine stands_congr fun op hop k hop' => ?_
  have hlt := hp.lt_made hop k hop'
  rw [← hk.count] at hlt
  rw [List.getElem?_append_left hlt]

theorem Kept.clone (hk : Kept ops rs) (hp : Proper ops) (hi : rs.handles[h]? = some i) :
    Kept (ops ++ [.clone h]) { rs with handles := rs.handles ++ [i] } := by
  have hlink : Connected (ops ++ [.clone h]) h rs.handles.length :=
    .rel _ _ (cloned_from_concat.mpr (.inr ⟨rfl, hk.count⟩))
  have hold {k : Nat} (hik : rs.handles[k]? = some i) :
      Connected (ops ++ [.clone h]) k rs.handles.length :=
    .trans _ _ _ (connected_concat (hk.joined k h i hik hi)) hlink
  refine ⟨?_, fun j hj => ?_, fun k k' hc => ?_, fun k k' j hj hj' => ?_, hk.distinct, ?_⟩
  · rw [made_concat, List.length_append, hk.count]
    rfl
  · rcases List.mem_append.mp hj with hj | hj
    · exact hk.backed j hj
    · rw [List.mem_singleton.mp hj]
      exact hk.backed i (List.mem_of_getElem? hi)
  · rcases cloned_from_concat.mp hc with hc | ⟨he, rfl⟩
    · obtain ⟨j, hj, hj'⟩ := hk.cloned k k' hc
      exact ⟨j, at_concat.mpr (.inl hj), at_concat.mpr (.inl hj')⟩
    · cases he
      exact ⟨i, at_concat.mpr (.inl hi), at_concat.mpr (.inr ⟨hk.count.symm, rfl⟩)⟩
  · rcases at_concat.mp hj with hj | ⟨rfl, rfl⟩
    · rcases at_concat.mp hj' with hj' | ⟨rfl, rfl⟩
      · exact connected_concat (hk.joined k k' j hj hj')
      · exact hold hj
    · rcases at_concat.mp hj' with hj' | ⟨rfl, -⟩
      · exact .symm _ _ (hold hj')
      · exact .refl _
  · intro j r hr t s
    rw [hk.bound j r hr, stands_concat, hk.stands_grown hp]
    simp [Operation.Stores, Operation.Changes]

theorem Kept.new (hk : Kept ops rs) (hp : Proper ops) :
    Kept (ops ++ [.new]) ⟨rs.stores ++ [.empty], rs.handles ++ [rs.stores.length]⟩ := by
  have hfresh (k : Nat) : rs.handles[k]? ≠ some rs.stores.length := fun hj =>
    absurd (hk.backed _ (List.mem_of_getElem? hj)) (Nat.lt_irrefl _)
  refine ⟨?_, fun j hj => ?_, fun k k' hc => ?_, fun k k' j hj hj' => ?_, fun r hr => ?_, ?_⟩
  · rw [made_concat, List.length_append, hk.count]
    rfl
  · rw [List.length_append, List.length_singleton]
    rcases List.mem_append.mp hj with hj | hj
    · exact Nat.lt_succ_of_lt (hk.backed j hj)
    · rw [List.mem_singleton.mp hj]
      exact Nat.lt_succ_self _
  · rcases cloned_from_concat.mp hc with hc | ⟨he, -⟩
    · obtain ⟨j, hj, hj'⟩ := hk.cloned k k' hc
      exact ⟨j, at_concat.mpr (.inl hj), at_concat.mpr (.inl hj')⟩
    · cases he
  · rcases at_concat.mp hj with hj | ⟨rfl, rfl⟩
    · rcases at_concat.mp hj' with hj' | ⟨rfl, rfl⟩
      · exact connected_concat (hk.joined k k' j hj hj')
      · exact absurd hj (hfresh k)
    · rcases at_concat.mp hj' with hj' | ⟨rfl, -⟩
      · exact absurd hj' (hfresh k')
      · exact .refl _
  · rcases List.mem_append.mp hr with hr | hr
    · exact hk.distinct r hr
    · rw [List.mem_singleton.mp hr]
      exact Registry.distinct_empty
  · intro j r hr t s
    rw [stands_concat, hk.stands_grown hp]
    by_cases hj : j < rs.stores.length
    · rw [List.getElem?_append_left hj] at hr
      rw [hk.bound j r hr]
      simp [Operation.Stores, Operation.Changes]
    · -- the new store is empty, and nothing went through a handle of it
      obtain ⟨rfl, rfl⟩ : j = rs.stores.length ∧ r = .empty := by
        have hlength := (List.getElem?_eq_some_iff.mp hr).1
        rw [List.length_append, List.length_singleton] at hlength
        obtain rfl : j = rs.stores.length := by omega
        rw [List.getElem?_concat_length] at hr
        exact ⟨rfl, (Option.some.inj hr).symm⟩
      refine iff_of_false (fun he => nomatch he) ?_
      rintro (he | ⟨⟨before, op, after, -, hstores, -⟩, -⟩)
      · exact he
      · cases op with
        | store k u s' => exact hfresh k hstores.1
        | _ => exact hstores

theorem kept_step (hk : Kept ops rs) (hp : Proper (ops ++ [op])) :
    Kept (ops ++ [op]) (rs.step op).2 := by
  have hstill (hm : op.makes = false) (hs : ∀ t s among, ¬op.Stores t s among)
      (hc : ∀ t among, ¬op.Changes t among) : Kept (ops ++ [op]) rs :=
    hk.unmade hm rfl hk.distinct fun i r hr t s => by simp [hk.bound i r hr, hs, hc]
  cases op with
  | store h t s =>
    refine hk.change rfl (hp.last h rfl) (fun r hr => hr.insert t s)
      (fun r u => r.lookup_insert t u s) (fun u s' among => ?_) fun u among => Iff.rfl
    rw [Operation.Stores, Option.some.injEq, and_assoc, @eq_comm _ s]
  | remove h t =>
    refine hk.change rfl (hp.last h rfl) (fun r hr => hr.erase t) (fun r u => r.lookup_erase t u)
      (fun u s' among => ?_) fun u among => Iff.rfl
    simp [Operation.Stores]
  | clone h =>
    obtain ⟨i, _, hi, -, -⟩ := hk.handle (hp.last h rfl)
    have hstep : (rs.step (.clone h)).2 = { rs with handles := rs.handles ++ [i] } := by
      rw [step, hi]
    rw [hstep]
    exact hk.clone hp.left hi
  | new => exact hk.new hp.left
  | _ => exact hstill rfl (fun _ _ _ he => he) fun _ _ he => he

end Steps

section Runs

variable {ops more : List Operation} {op : Operation} {rs : Registries} {h h' : Nat}
  {t u : TypeToken}

theorem run_append (rs : Registries) (ops more : List Operation) :
    rs.run (ops ++ more) =
      ((rs.run ops).1 ++ ((rs.run ops).2.run more).1, ((rs.run ops).2.run more).2) := by
  induction ops generalizing rs with
  | nil => rfl
  | cons op rest ih =>
    simp only [List.cons_append, run, ih]

theorem length_run (rs : Registries) (ops : List Operation) :
    (rs.run ops).1.length = ops.length := by
  induction ops generalizing rs with
  | nil => rfl
  | cons op rest ih => exact congrArg (· + 1) (ih (rs.step op).2)

theorem kept_run (hp : Proper ops) : Kept ops (start.run ops).2 := by
  induction ops using List.reverseRecOn with
  | nil => exact kept_start
  | append_singleton ops op ih =>
    rw [run_append]
    exact kept_step (ih hp.left) hp

theorem Kept.finds (hk : Kept ops rs) (hh : h < made ops) (t : TypeToken) :
    Finds ops h t ((rs.behind h).lookup t) := by
  obtain ⟨i, r, hi, hr, hbehind⟩ := hk.handle hh
  intro s
  rw [hbehind, hk.bound i r hr]
  exact stands_congr fun op _ k _ => hk.connected_iff hi

theorem Kept.binds (hk : Kept ops rs) (hh : h < made ops) :
    ∃ tokens, Binds ops h tokens ∧ (rs.behind h).size = tokens.card := by
  obtain ⟨i, r, -, hr, hbehind⟩ := hk.handle hh
  obtain ⟨tokens, hmem, hsize⟩ := (hk.distinct r (List.mem_of_getElem? hr)).size
  refine ⟨tokens, fun t => (hmem t).trans (exists_congr fun s => ?_), by rw [hbehind, hsize]⟩
  rw [← hbehind]
  exact hk.finds hh t s

/-- What is answered is what is due. -/
theorem Kept.due (hk : Kept ops rs) (hp : Proper (ops ++ [op])) : Due ops op (rs.step op).1 := by
  have hfinds (h : Nat) (hh : h ∈ op.handle?) (t : TypeToken) :
      Finds ops h t ((rs.behind h).lookup t) := hk.finds (hp.last h hh) t
  have hbinds (h : Nat) (hh : h ∈ op.handle?) :
      ∃ tokens, Binds ops h tokens ∧ (rs.behind h).size = tokens.card :=
    hk.binds (hp.last h hh)
  cases op with
  | store h t s => exact .store (hfinds h rfl t) s
  | lookup h t => exact .lookup (hfinds h rfl t)
  | remove h t => exact .remove (hfinds h rfl t)
  | size h =>
    obtain ⟨tokens, hb, hsize⟩ := hbinds h rfl
    rw [step, hsize]
    exact .size hb
  | isEmpty h =>
    obtain ⟨tokens, hb, hsize⟩ := hbinds h rfl
    rw [step, Registry.empty_iff_size, hsize]
    exact .isEmpty hb
  | clone h =>
    obtain ⟨i, _, hi, -, -⟩ := hk.handle (hp.last h rfl)
    rw [step, hi]
    exact hk.count ▸ .clone h
  | new =>
    rw [step, hk.count]
    exact .new

theorem behind_change (rs : Registries) (k h : Nat) (f : Registry → Registry) :
    (rs.change k f).behind h = rs.behind h ∨
      (rs.change k f).behind h = f (rs.behind h) ∧ rs.handles[h]? = rs.handles[k]? := by
  unfold change behind
  cases hk : rs.handles[k]? with
  | none => exact .inl rfl
  | some i =>
    cases hh : rs.handles[h]? with
    | none => exact .inl rfl
    | some j =>
      simp only [Option.bind_some, List.getElem?_modify]
      cases hj : rs.stores[j]? with
      | none => exact .inl rfl
      | some r =>
        by_cases hij : i = j
        · exact .inr ⟨by simp [hij], by rw [hij]⟩
        · exact .inl (by simp [hij])

theorem Kept.behind_step (hk : Kept ops rs) (hp : Proper (ops ++ [op])) (hh : h < made ops)
    (hapart : ∀ k ∈ op.handle?, ¬Connected ops h k) : (rs.step op).2.behind h = rs.behind h := by
  have hchange (k : Nat) (hop : k ∈ op.handle?) (f : Registry → Registry) :
      (rs.change k f).behind h = rs.behind h := by
    refine (behind_change rs k h f).resolve_right fun ⟨_, hsame⟩ => hapart k hop ?_
    obtain ⟨i, _, hi, -, -⟩ := hk.handle hh
    exact hk.joined h k i hi (hsame.symm.trans hi)
  have hgrown (stores : List Registry) (j : Nat)
      (hs : ∀ (i : Nat) (r : Registry), rs.stores[i]? = some r → stores[i]? = some r) :
      (⟨stores, rs.handles ++ [j]⟩ : Registries).behind h = rs.behind h := by
    obtain ⟨i, r, hi, hr, hbehind⟩ := hk.handle hh
    rw [hbehind, behind, at_concat.mpr (.inl hi), Option.bind_some, hs i r hr]
    rfl
  cases op with
  | store k t s => exact hchange k rfl _
  | remove k t => exact hchange k rfl _
  | clone k =>
    obtain ⟨i, _, hi, -, -⟩ := hk.handle (hp.last k rfl)
    rw [step, hi]
    exact hgrown _ i fun _ _ hr => hr
  | new =>
    refine hgrown _ _ fun i r hr => ?_
    rw [List.getElem?_append_left (List.getElem?_eq_some_iff.mp hr).1, hr]
  | _ => rfl

/-- Operations through handles of other classes are not seen. -/
theorem behind_apart (hp : Proper (ops ++ more)) (hh : h < made ops)
    (hapart : ∀ op ∈ more, ∀ k ∈ op.handle?, ¬Connected (ops ++ more) h k) :
    (start.run (ops ++ more)).2.behind h = (start.run ops).2.behind h := by
  induction more using List.reverseRecOn with
  | nil => rw [List.append_nil]
  | append_singleton more op ih =>
    rw [← List.append_assoc] at hp hapart ⊢
    rw [run_append]
    refine ((kept_run hp.left).behind_step hp ?_ fun k hk hc => ?_).trans
      (ih hp.left fun x hx k hk hc => ?_)
    · rw [made_append]
      omega
    · exact hapart op (by simp) k hk (connected_concat hc)
    · exact hapart x (by simp [hx]) k hk (connected_concat hc)

theorem lookup_step (rs : Registries) (hop : op.Changes t fun _ => True) (hu : u ≠ t) (h : Nat) :
    ((rs.step op).2.behind h).lookup u = (rs.behind h).lookup u := by
  have hchange {f : Registry → Registry} {found : Option Schema} (k : Nat)
      (hf : ∀ r v, (f r).lookup v = if v = t then found else r.lookup v) :
      ((rs.change k f).behind h).lookup u = (rs.behind h).lookup u := by
    rcases behind_change rs k h f with hb | ⟨hb, -⟩
    · rw [hb]
    · rw [hb, hf, if_neg hu]
  cases op with
  | store k v s =>
    obtain ⟨-, rfl⟩ := hop
    exact hchange k fun r w => r.lookup_insert v w s
  | remove k v =>
    obtain ⟨-, rfl⟩ := hop
    exact hchange k fun r w => r.lookup_erase v w
  | _ => exact hop.elim

end Runs

/-- Along every run each operation is answered as the operations before it say. Connected handles
have one registry, which operations through other handles do not reach. A named type is never a
built-in one: what is done to the one is not seen under the other. -/
theorem run_refines {ops : List Operation} (hp : Proper ops) :
    let rs := (start.run ops).2
    (∀ before op after, ops = before ++ op :: after →
      ∃ answer, (start.run ops).1[before.length]? = some answer ∧ Due before op answer) ∧
    (∀ h h', Connected ops h h' → rs.behind h = rs.behind h') ∧
    (∀ more, Proper (ops ++ more) → ∀ h, h < made ops →
      (∀ op ∈ more, ∀ k ∈ op.handle?, ¬Connected (ops ++ more) h k) →
        (start.run (ops ++ more)).2.behind h = rs.behind h) ∧
    ∀ (name : String) (type : BuiltinType) (op : Operation) (h : Nat),
      (op.Changes (.named name) (fun _ => True) →
        ((rs.step op).2.behind h).lookup (.builtin type) = (rs.behind h).lookup (.builtin type)) ∧
      (op.Changes (.builtin type) (fun _ => True) →
        ((rs.step op).2.behind h).lookup (.named name) = (rs.behind h).lookup (.named name)) := by
  intro rs
  have hne (name : String) (type : BuiltinType) : TypeToken.named name ≠ .builtin type :=
    fun he => nomatch he
  refine ⟨fun before op after heq => ?_, fun h h' hc => ?_, fun more hmore h hh hapart => ?_,
    fun name type op h => ⟨fun hop => ?_, fun hop => ?_⟩⟩
  · subst heq
    rw [List.append_cons] at hp
    refine ⟨_, ?_, (kept_run hp.left.left).due hp.left⟩
    rw [run_append, List.getElem?_append_right (by rw [length_run]), length_run, Nat.sub_self]
    rfl
  · rw [behind, behind, (kept_run hp).same hc]
  · exact behind_apart hmore hh hapart
  · exact lookup_step rs hop (hne name type).symm h
  · exact lookup_step rs hop (hne name type) h

def clonedRun : List Operation :=
  [.clone 0, .new, .store 1 (.named "i64") (.bool true),
    .store 2 (.builtin .integer64) (.bool false), .lookup 0 (.named "i64"),
    .lookup 0 (.builtin .integer64)]

theorem cloned_run_proper : Proper clonedRun := by
  have hclone : Proper [.clone 0, .new] := (proper_nil.concat (by decide)).concat (by decide)
  have hstore : Proper (clonedRun.take 4) := (hclone.concat (by decide)).concat (by decide)
  exact (hstore.concat (by decide)).concat (by decide)

theorem run_refines_cloned : Proper clonedRun ∧
    (∃ answer, (start.run clonedRun).1[4]? = some answer ∧
      Due (clonedRun.take 4) (.lookup 0 (.named "i64")) answer ∧
      answer = .bound (some (.bool true))) ∧
    (start.run clonedRun).2.behind 0 = (start.run clonedRun).2.behind 1 ∧
    (start.run clonedRun).1[5]? = some (.bound none) := by
  obtain ⟨hdue, hsame, -, -⟩ := run_refines cloned_run_proper
  obtain ⟨answer, hanswer, hlookup⟩ := hdue (clonedRun.take 4) _ _ rfl
  refine ⟨cloned_run_proper, ⟨answer, hanswer, hlookup, ?_⟩, hsame 0 1 ?_, rfl⟩
  · exact (Option.some.inj hanswer).symm
  · exact .rel 0 1 ⟨[], _, rfl, rfl⟩

end Registries

end CallContract
