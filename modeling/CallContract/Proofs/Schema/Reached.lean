import CallContract.Schema.Check
import CallContract.Proofs.Json.Places
import CallContract.Proofs.Schema.SelfContained

/-!
# What is reached from a schema

From a schema its parts are reached, and what a reference of a schema that is
reached leads to. A document is a schema if its shapes are right and all that
the reached schemas use is in order. Reading follows every reference once; it
misses nothing, as the references that lie inside each other are different texts
of the document.
-/

set_option autoImplicit false

namespace CallContract.Schema

open Keyword

def ownUses : Schema → List Use
  | .bool _ => []
  | .obj entries => entries.flatMap fun (key, value) =>
    match Keyword.read entries key value with
    | .ok (some k) => ownUse k
    | .ok none => []
    | .error cause => [.fault cause]
  | x => [.fault (.piece x (.wrongKinds [.boolean, .object]))]

def Reads (s t : Schema) : Prop :=
  ∃ entries, s = .obj entries ∧ ∃ k ∈ Keyword.ofEntries entries, t ∈ k.parts

inductive Reached (root s : Schema) : Schema → Prop where
  | start : Reached root s s
  | part {t u : Schema} (ht : Reached root s t) (hu : t.Reads u) : Reached root s u
  | target {t u : Schema} {r : String} (ht : Reached root s t) (hr : .reference r ∈ t.ownUses)
      (hu : follow root r = .ok u) : Reached root s u

theorem Reached.trans {root s t u : Schema} (ht : Reached root s t) (hu : Reached root t u) :
    Reached root s u := by
  induction hu with
  | start => exact ht
  | part _ hv ih => exact .part ih hv
  | target _ hr hv ih => exact .target ih hr hv

def InOrder (root s : Schema) : Prop := ∀ u ∈ s.ownUses, useFaults root u = []

theorem mem_entry_uses {entries : Entries} {f : Keyword Schema → List Use} {u : Use} :
    (u ∈ entries.flatMap fun (key, value) => match Keyword.read entries key value with
      | .ok (some k) => f k
      | .ok none => []
      | .error cause => [.fault cause]) ↔
    (∃ k ∈ Keyword.ofEntries entries, u ∈ f k) ∨
      ∃ key value cause, (key, value) ∈ entries ∧
        Keyword.read entries key value = .error cause ∧ u = .fault cause := by
  rw [List.mem_flatMap]
  constructor
  · rintro ⟨⟨key, value⟩, hm, hu⟩
    dsimp only at hu
    split at hu
    · rename_i k hr
      exact .inl ⟨k, mem_of_entries.mpr ⟨key, value, hm, hr⟩, hu⟩
    · cases hu
    · rename_i cause hr
      exact .inr ⟨key, value, cause, hm, hr, List.mem_singleton.mp hu⟩
  · rintro (⟨k, hk, hu⟩ | ⟨key, value, cause, hm, hr, rfl⟩)
    · obtain ⟨key, value, hm, hr⟩ := mem_of_entries.mp hk
      exact ⟨(key, value), hm, by dsimp only; rw [hr]; exact hu⟩
    · exact ⟨(key, value), hm, by dsimp only; rw [hr]; exact List.mem_singleton_self _⟩

theorem reads_obj {entries : Entries} {t : Schema} :
    Reads (.obj entries) t ↔ ∃ k ∈ Keyword.ofEntries entries, t ∈ k.parts := by
  constructor
  · rintro ⟨_, h, hk⟩
    cases h
    exact hk
  · exact fun hk => ⟨entries, rfl, hk⟩

theorem part_of_of_keyword {entries : Entries} {k : Keyword Schema} {t : Schema}
    (hk : k ∈ Keyword.ofEntries entries) (ht : t ∈ k.parts) : PartOf entries t := by
  obtain ⟨key, value, hm, hr⟩ := mem_of_entries.mp hk
  exact (read_found hm hr).2 t ht

theorem depth_of_reads {s t : Schema} (h : s.Reads t) : t.depth < s.depth := by
  obtain ⟨entries, rfl, k, hk, ht⟩ := h
  exact depth_of_part (part_of_of_keyword hk ht)

theorem places_of_part {entries : Entries} {s : Schema} (h : PartOf entries s) :
    s ∈ Json.places (.obj entries) := by
  cases h with
  | value _ entry => exact Json.places_of_entry entry s.self_mem_places
  | item _ entry item =>
    exact Json.places_of_entry entry (Json.places_of_item item s.self_mem_places)
  | member _ entry member =>
    exact Json.places_of_entry entry (Json.places_of_entry member s.self_mem_places)

theorem places_of_reads {s t : Schema} (h : s.Reads t) : t ∈ Json.places s := by
  obtain ⟨entries, rfl, k, hk, ht⟩ := h
  exact places_of_part (part_of_of_keyword hk ht)

theorem places_of_follow_pieces {pointer : String} {root s : Schema} {pieces : List (List Char)}
    (h : followPieces pointer root pieces = .ok s) : s ∈ Json.places root := by
  induction pieces generalizing root with
  | nil =>
    rw [followPieces] at h
    cases h
    exact Json.self_mem_places _
  | cons piece rest ih =>
    cases root with
    | arr items =>
      rw [followPieces] at h
      split at h
      · cases h
      · split at h
        · rename_i x hx
          exact Json.places_of_item (List.mem_of_getElem? hx) (ih h)
        · cases h
    | obj entries =>
      rw [followPieces] at h
      split at h
      · rename_i x hx
        exact Json.places_of_entry (Entries.mem_of_lookup hx) (ih h)
      · cases h
    | _ => cases h

theorem places_of_follow {root s : Schema} {r : String} (h : follow root r = .ok s) :
    s ∈ Json.places root := by
  unfold follow at h
  split at h
  · cases h
    exact Json.self_mem_places _
  · split at h
    · cases h
    · unfold followFragment at h
      split at h
      · cases h
        exact Json.self_mem_places _
      · dsimp only at h
        split at h
        · exact places_of_follow_pieces h
        · cases h
      · cases h
  · cases h

theorem mem_uses_within {n : Nat} {s : Schema} (hn : s.depth < n) {u : Use} :
    u ∈ usesWithin n s ↔ ∃ t, Relation.ReflTransGen Reads s t ∧ u ∈ t.ownUses := by
  induction n generalizing s with
  | zero => omega
  | succ n ih =>
    have hstep : u ∈ usesWithin (n + 1) s ↔
        u ∈ s.ownUses ∨ ∃ t, s.Reads t ∧ u ∈ usesWithin n t := by
      cases s with
      | obj entries =>
        have hl : u ∈ usesWithin (n + 1) (.obj entries) ↔ _ :=
          mem_entry_uses (f := fun k => ownUse k ++ k.parts.flatMap (usesWithin n))
        have ho : u ∈ ownUses (.obj entries) ↔ _ := mem_entry_uses (f := ownUse)
        rw [hl, ho]
        simp only [reads_obj, List.mem_append, List.mem_flatMap]
        constructor
        · rintro (⟨k, hk, hu | ⟨t, ht, hu⟩⟩ | hfault)
          · exact .inl (.inl ⟨k, hk, hu⟩)
          · exact .inr ⟨t, ⟨k, hk, ht⟩, hu⟩
          · exact .inl (.inr hfault)
        · rintro ((⟨k, hk, hu⟩ | hfault) | ⟨t, ⟨k, hk, ht⟩, hu⟩)
          · exact .inl ⟨k, hk, .inl hu⟩
          · exact .inr hfault
          · exact .inl ⟨k, hk, .inr ⟨t, ht, hu⟩⟩
      | bool b => simp [usesWithin, ownUses, Reads]
      | _ => simp [usesWithin, ownUses, Reads]
    rw [hstep]
    constructor
    · rintro (hu | ⟨t, ht, hu⟩)
      · exact ⟨s, .refl, hu⟩
      · have := depth_of_reads ht
        obtain ⟨v, hv, hu⟩ := (ih (by omega)).mp hu
        exact ⟨v, .head ht hv, hu⟩
    · rintro ⟨t, ht, hu⟩
      rcases Relation.ReflTransGen.cases_head ht with rfl | ⟨v, hv, ht⟩
      · exact .inl hu
      · have := depth_of_reads hv
        exact .inr ⟨v, hv, (ih (by omega)).mpr ⟨t, ht, hu⟩⟩

theorem mem_uses {s : Schema} {u : Use} :
    u ∈ uses s ↔ ∃ t, Relation.ReflTransGen Reads s t ∧ u ∈ t.ownUses :=
  mem_uses_within (Nat.lt_succ_self _)

theorem own_use_reference {r : String} {k : Keyword Schema} :
    .reference r ∈ ownUse k ↔ k = .reference r := by
  cases k <;> simp [ownUse, eq_comm]

theorem reference_mem {entries : Entries} {r : String} :
    .reference r ∈ ownUses (.obj entries) ↔ .reference r ∈ Keyword.ofEntries entries := by
  have ho : Use.reference r ∈ ownUses (.obj entries) ↔ _ := mem_entry_uses (f := ownUse)
  rw [ho]
  simp only [own_use_reference]
  constructor
  · rintro (⟨_, hk, rfl⟩ | ⟨_, _, _, _, _, h⟩)
    · exact hk
    · cases h
  · exact fun hk => .inl ⟨_, hk, rfl⟩

theorem places_of_reference {s : Schema} {r : String} (h : .reference r ∈ s.ownUses) :
    Json.str r ∈ Json.places s := by
  cases s with
  | obj entries =>
    obtain ⟨key, value, hm, hr⟩ := mem_of_entries.mp (reference_mem.mp h)
    have hkey := (read_found hm hr).1
    subst hkey
    obtain ⟨_, rfl, he⟩ := of_string_found hr
    cases he
    exact Json.places_of_entry hm (Json.self_mem_places _)
  | bool b => cases h
  | _ => simp [ownUses] at h

theorem places_of_reads_star {s t : Schema} (h : Relation.ReflTransGen Reads s t) :
    t ∈ Json.places s := by
  induction h with
  | refl => exact s.self_mem_places
  | tail _ hu ih => exact Json.places_trans (places_of_reads hu) _ ih

theorem places_of_reached {root s t : Schema} (h : Reached root s t) (hs : s ∈ Json.places root) :
    t ∈ Json.places root := by
  induction h with
  | start => exact hs
  | part _ hu ih => exact Json.places_trans (places_of_reads hu) _ ih
  | target _ _ hu _ => exact places_of_follow hu

def Covered (met : List String) (out us : List Use) : Prop :=
  ∀ u ∈ us, match u with
    | .reference r => r ∈ met
    | u => u ∈ out

theorem Covered.mono {met met' : List String} {out out' us : List Use} (h : Covered met out us)
    (hm : met ⊆ met') (ho : out ⊆ out') : Covered met' out' us := by
  intro u hu
  have := h u hu
  cases u with
  | reference r => exact hm this
  | pattern source => exact ho this
  | fault cause => exact ho this

/-- What a reading has to give: every reference that it meets first is in the output, and what that
leads to is read. -/
structure ReadAll (root : Schema) (met : List String) (us : List Use)
    (result : List Use × List String) : Prop where
  grows : met ⊆ result.2
  covered : Covered result.2 result.1 us
  followed : ∀ r ∈ result.2, r ∉ met → .reference r ∈ result.1 ∧
    ∀ s, follow root r = .ok s → Covered result.2 result.1 (uses s)

namespace ReadAll

variable {root : Schema} {met : List String}

theorem append {us vs : List Use} {first second : List Use × List String}
    (h : ReadAll root met us first) (h' : ReadAll root first.2 vs second) :
    ReadAll root met (us ++ vs) (first.1 ++ second.1, second.2) := by
  have hfront := List.subset_append_left first.1 second.1
  have hback := List.subset_append_right first.1 second.1
  refine ⟨List.Subset.trans h.grows h'.grows, List.forall_mem_append.mpr
    ⟨h.covered.mono h'.grows hfront, h'.covered.mono (List.Subset.refl _) hback⟩,
    fun r hr hnew => ?_⟩
  -- a reference that is new to the whole was met first in one of the two readings
  by_cases hin : r ∈ first.2
  · obtain ⟨hout, hcov⟩ := h.followed r hin hnew
    exact ⟨hfront hout, fun s hf => (hcov s hf).mono h'.grows hfront⟩
  · obtain ⟨hout, hcov⟩ := h'.followed r hr hin
    exact ⟨hback hout, fun s hf => (hcov s hf).mono (List.Subset.refl _) hback⟩

theorem again {r : String} (h : r ∈ met) : ReadAll root met [.reference r] ([], met) :=
  ⟨List.Subset.refl _, List.forall_mem_singleton.mpr h, fun _ hr hnew => absurd hr hnew⟩

theorem first {r : String} {below : List Use} {read : List Use × List String}
    (h : ReadAll root (r :: met) below read)
    (hbelow : ∀ s, follow root r = .ok s → below = uses s) :
    ReadAll root met [.reference r] (.reference r :: read.1, read.2) := by
  have hread := List.subset_cons_self (Use.reference r) read.1
  refine ⟨List.Subset.trans (List.subset_cons_self _ _) h.grows,
    List.forall_mem_singleton.mpr (h.grows List.mem_cons_self), fun r' hr hnew => ?_⟩
  by_cases heq : r' = r
  · subst heq
    refine ⟨List.mem_cons_self, fun s hf => ?_⟩
    have hcov := h.covered
    rw [hbelow s hf] at hcov
    exact hcov.mono (List.Subset.refl _) hread
  · obtain ⟨hout, hcov⟩ := h.followed r' hr (List.not_mem_cons_of_ne_of_not_mem heq hnew)
    exact ⟨hread hout, fun s hf => (hcov s hf).mono (List.Subset.refl _) hread⟩

theorem other {u : Use} (h : ∀ r, u ≠ .reference r) : ReadAll root met [u] ([u], met) := by
  refine ⟨List.Subset.refl _, List.forall_mem_singleton.mpr ?_, fun r hr hnew => absurd hr hnew⟩
  cases u with
  | reference r => exact absurd rfl (h r)
  | pattern source | fault cause => exact List.mem_cons_self

end ReadAll

def texts (root : Schema) : Finset String :=
  (root.places.filterMap fun x => match x with
    | .str r => some r
    | _ => none).toFinset

theorem mem_texts {root : Schema} {r : String} :
    r ∈ texts root ↔ Json.str r ∈ Json.places root := by
  unfold texts
  rw [List.mem_toFinset, List.mem_filterMap]
  constructor
  · rintro ⟨x, hx, h⟩
    split at h
    · cases h
      exact hx
    · cases h
  · exact fun h => ⟨_, h, rfl⟩

theorem card_texts (root : Schema) : (texts root).card ≤ Json.nodes root := by
  rw [← Json.length_places]
  exact (List.toFinset_card_le _).trans (List.length_filterMap_le _ _)

theorem reference_of_uses {root s : Schema} (hs : s ∈ Json.places root) {r : String}
    (h : .reference r ∈ uses s) : r ∈ texts root := by
  obtain ⟨t, ht, hr⟩ := mem_uses.mp h
  exact mem_texts.mpr (Json.places_trans (Json.places_trans (places_of_reference hr) _
    (places_of_reads_star ht)) _ hs)

/-- A list of uses is read if each of its references is, where it is met first. -/
theorem read_all_of_enter {root : Schema} {enter : List String → String → List Use × List String}
    {met : List String} {us : List Use}
    (h : ∀ met', met ⊆ met' → ∀ r, .reference r ∈ us → r ∉ met' → ∃ below,
      ReadAll root (r :: met') below (enter (r :: met') r) ∧
        ∀ s, follow root r = .ok s → below = uses s) :
    ReadAll root met us (readUses enter met us) := by
  induction us generalizing met with
  | nil => exact ⟨fun _ h => h, fun _ h => (nomatch h), fun r h hr => absurd h hr⟩
  | cons u us ih =>
    have htail (met' : List String) (hm : met ⊆ met') :
        ReadAll root met' us (readUses enter met' us) :=
      ih fun later hl r hr => h later (List.Subset.trans hm hl) r (List.mem_cons_of_mem _ hr)
    cases u with
    | reference r =>
      rw [readUses]
      split
      · rename_i hr
        exact (ReadAll.again (List.contains_iff_mem.mp hr)).append (htail met (List.Subset.refl _))
      · rename_i hr
        have hnew : r ∉ met := fun hm => hr (List.contains_iff_mem.mpr hm)
        obtain ⟨below, hb, hs⟩ := h met (List.Subset.refl _) r List.mem_cons_self hnew
        have hfirst := ReadAll.first hb hs
        exact hfirst.append (htail _ hfirst.grows)
    | pattern source | fault cause =>
      rw [readUses]
      · exact (ReadAll.other (by simp)).append (htail met (List.Subset.refl _))
      · rintro r h
        cases h

theorem fewer_texts {root : Schema} {met met' : List String} {r : String} (hm : met ⊆ met')
    (hr : r ∈ texts root) (hnew : r ∉ met') :
    (texts root \ (r :: met').toFinset).card < (texts root \ met.toFinset).card := by
  apply Finset.card_lt_card
  refine (Finset.ssubset_iff_of_subset fun x hx => ?_).mpr ⟨r, ?_, ?_⟩
  · rw [Finset.mem_sdiff, List.mem_toFinset] at hx ⊢
    exact ⟨hx.1, fun h => hx.2 (List.mem_cons_of_mem _ (hm h))⟩
  · rw [Finset.mem_sdiff, List.mem_toFinset]
    exact ⟨hr, fun h => hnew (hm h)⟩
  · rw [Finset.mem_sdiff, List.mem_toFinset]
    exact fun h => h.2 List.mem_cons_self

/-- Following to a depth reads everything if no more references than that are left to meet. -/
theorem read_uses_all {root : Schema} {n : Nat} {met : List String} {us : List Use}
    (hn : (texts root \ met.toFinset).card ≤ n) (hus : ∀ r, .reference r ∈ us → r ∈ texts root) :
    ReadAll root met us (readUses (followUses root n) met us) := by
  induction n generalizing met us with
  | zero =>
    refine read_all_of_enter fun met' hm r hr hnew => ?_
    have := fewer_texts hm (hus r hr) hnew
    omega
  | succ n ih =>
    refine read_all_of_enter fun met' hm r hr hnew => ?_
    have := fewer_texts hm (hus r hr) hnew
    rw [followUses]
    cases hf : follow root r with
    | error e =>
      exact ⟨[], ⟨fun _ h => h, fun _ h => (nomatch h), fun r h hr => absurd h hr⟩,
        fun _ h => (nomatch h)⟩
    | ok s =>
      refine ⟨uses s, ih (by omega) fun _ => reference_of_uses (places_of_follow hf),
        fun t ht => ?_⟩
      cases ht
      rfl

theorem forall_of_enter {enter : List String → String → List Use × List String} {P : Use → Prop}
    {met : List String} {us : List Use}
    (h : ∀ met' r, .reference r ∈ us → ∀ u ∈ (enter (r :: met') r).1, P u)
    (hus : ∀ u ∈ us, P u) : ∀ u ∈ (readUses enter met us).1, P u := by
  induction us generalizing met with
  | nil => exact fun _ h => (nomatch h)
  | cons u us ih =>
    obtain ⟨hu, hus⟩ := List.forall_mem_cons.mp hus
    have htail (met : List String) : ∀ u ∈ (readUses enter met us).1, P u :=
      ih (fun met' r hr => h met' r (List.mem_cons_of_mem _ hr)) hus
    cases u with
    | reference r =>
      rw [readUses]
      split
      · exact htail met
      · exact List.forall_mem_cons.mpr
          ⟨hu, List.forall_mem_append.mpr ⟨h met r List.mem_cons_self, htail _⟩⟩
    | pattern source | fault cause =>
      rw [readUses]
      · exact List.forall_mem_cons.mpr ⟨hu, htail met⟩
      · rintro r h
        cases h

/-- Nothing else is read: what holds of the uses, and of those that references lead to, holds of all
that is read. -/
theorem forall_read_uses {root : Schema} {P : Use → Prop}
    (hP : ∀ r s, P (.reference r) → follow root r = .ok s → ∀ u ∈ uses s, P u) {n : Nat}
    {met : List String} {us : List Use} (hus : ∀ u ∈ us, P u) :
    ∀ u ∈ (readUses (followUses root n) met us).1, P u := by
  induction n generalizing met us with
  | zero => exact forall_of_enter (fun _ _ _ _ h => nomatch h) hus
  | succ n ih =>
    refine forall_of_enter (fun met' r hr => ?_) hus
    rw [followUses]
    split
    · rename_i s hf
      exact ih (hP r s (hus _ hr) hf)
    · exact fun _ h => (nomatch h)

/-- Reading a schema of a document gives what the schemas use that are reached from it. -/
theorem mem_reached_uses {root s : Schema} (hs : s ∈ Json.places root) {u : Use} :
    u ∈ (reachedUses root [] (uses s)).1 ↔ ∃ t, Reached root s t ∧ u ∈ t.ownUses := by
  constructor
  · have hstar {t v : Schema} (ht : Reached root s t) (hv : Relation.ReflTransGen Reads t v) :
        Reached root s v := by
      induction hv with
      | refl => exact ht
      | tail _ hu ih => exact .part ih hu
    have hclosed (t : Schema) (ht : Reached root s t) :
        ∀ u ∈ uses t, ∃ v, Reached root s v ∧ u ∈ v.ownUses := fun u hu => by
      obtain ⟨v, hv, hu⟩ := mem_uses.mp hu
      exact ⟨v, hstar ht hv, hu⟩
    exact forall_read_uses (P := fun u => ∃ t, Reached root s t ∧ u ∈ t.ownUses)
      (fun r t ⟨v, hv, hr⟩ hf => hclosed t (.target hv hr hf)) (hclosed s .start) u
  · -- along the way to what is reached, everything that is used has been read
    have hread : ReadAll root [] (uses s) (reachedUses root [] (uses s)) :=
      read_uses_all ((Finset.card_le_card Finset.sdiff_subset).trans (card_texts root))
        fun r => reference_of_uses hs
    have hall {t : Schema} (ht : Reached root s t) :
        Covered (reachedUses root [] (uses s)).2 (reachedUses root [] (uses s)).1 (uses t) := by
      induction ht with
      | start => exact hread.covered
      | part _ hu ih =>
        intro u hm
        obtain ⟨v, hv, hm⟩ := mem_uses.mp hm
        exact ih u (mem_uses.mpr ⟨v, .head hu hv, hm⟩)
      | target _ hr hf ih =>
        have hm := ih _ (mem_uses.mpr ⟨_, .refl, hr⟩)
        exact (hread.followed _ hm List.not_mem_nil).2 _ hf
    rintro ⟨t, ht, hu⟩
    have hm := hall ht u (mem_uses.mpr ⟨t, .refl, hu⟩)
    cases u with
    | reference r => exact (hread.followed r hm List.not_mem_nil).1
    | pattern source | fault cause => exact hm

def Usable (root s : Schema) : Prop := ∀ t, Reached root s t → InOrder root t

/-- A schema is sound in a document: its shapes are right, and all that is reached from it is in
order. -/
structure SoundIn (root s : Schema) : Prop where
  shapes : shapeFaults s = []
  usable : Usable root s

/-- A document is a schema if it is sound in itself. -/
theorem check_iff (s : Schema) : s.check = .ok () ↔ SoundIn s s := by
  have hcheck : s.check = .ok () ↔ s.faults = [] := by
    unfold check fault?
    cases s.faults <;> simp
  rw [hcheck, faults, List.append_eq_nil_iff, List.flatMap_eq_nil_iff]
  constructor
  · rintro ⟨hf, h⟩
    exact ⟨hf, fun t ht u hu => h u ((mem_reached_uses s.self_mem_places).mpr ⟨t, ht, hu⟩)⟩
  · rintro ⟨hf, h⟩
    refine ⟨hf, fun u hu => ?_⟩
    obtain ⟨t, ht, hu⟩ := (mem_reached_uses s.self_mem_places).mp hu
    exact h t ht u hu

end CallContract.Schema
