import CallContract.Proofs.Schema.Reached

/-!
# Schemas that mean the same in another document

Evaluation of a schema on one value goes from a schema to its parts about that
value and along references. If it never comes back to the schema it is at, the
schemas on the way are different, and there are no more of them than places:
the budget is enough and does not matter. If, moreover, every reference that is
reached leads to the same schema in another document, that document may take
the place of the first.
-/

set_option autoImplicit false

namespace CallContract

theorem Json.depth_of_inside {v x : Json} (h : x ∈ v.inside) : x.depth < v.depth := by
  cases v with
  | arr items => exact Json.depth_of_item h
  | obj entries =>
    rcases List.mem_append.mp h with h | h
    · obtain ⟨⟨key, y⟩, he, rfl⟩ := List.mem_map.mp h
      exact Json.depth_of_entry he
    · obtain ⟨⟨key, y⟩, he, rfl⟩ := List.mem_map.mp h
      exact Nat.lt_of_le_of_lt (Nat.zero_le _) (Json.depth_of_entry he)
  | _ => cases h

namespace Schema

open Keyword

inductive Leads (root : Schema) : Schema → Schema → Prop where
  | part {entries : Entries} {k : Keyword Schema} {t : Schema}
      (hk : k ∈ Keyword.ofEntries entries) (hp : k.inPlace = true) (ht : t ∈ k.parts) :
      Leads root (.obj entries) t
  | target {s t : Schema} {r : String} (hr : .reference r ∈ s.ownUses)
      (ht : follow root r = .ok t) : Leads root s t

theorem Reached.leads {root s t u : Schema} (ht : Reached root s t) (hl : Leads root t u) :
    Reached root s u := by
  cases hl with
  | part hk _ hu => exact .part ht (reads_obj.mpr ⟨_, hk, hu⟩)
  | target hr hu => exact .target ht hr hu

/-- Evaluation never comes back to a schema with the same value. -/
def Guarded (root s : Schema) : Prop :=
  ∀ t, Reached root s t → ¬Relation.TransGen (Leads root) t t

/-- What a schema of a document refers to is the same in another document. -/
def Kept (root other s : Schema) : Prop :=
  ∀ t r, Reached root s t → .reference r ∈ t.ownUses →
    ∃ u, follow root r = .ok u ∧ follow other r = .ok u

variable {root other s t : Schema}

theorem reached_kept (hk : Kept root other s) (h : Reached root s t) : Reached other s t := by
  induction h with
  | start => exact .start
  | part _ hu ih => exact .part ih hu
  | target ht hr hu ih =>
    obtain ⟨u, hroot, hother⟩ := hk _ _ ht hr
    rw [hu] at hroot
    cases hroot
    exact .target ih hr hother

theorem Kept.symm (hk : Kept root other s) : Kept other root s := by
  have hback {t : Schema} (h : Reached other s t) : Reached root s t := by
    induction h with
    | start => exact .start
    | part _ hu ih => exact .part ih hu
    | target ht hr hu ih =>
      obtain ⟨u, hroot, hother⟩ := hk _ _ ih hr
      rw [hu] at hother
      cases hother
      exact .target ih hr hroot
  intro t r ht hr
  obtain ⟨u, hroot, hother⟩ := hk t r (hback ht) hr
  exact ⟨u, hother, hroot⟩

theorem Kept.reached (hk : Kept root other s) (ht : Reached root s t) : Kept root other t :=
  fun _ _ hu => hk _ _ (ht.trans hu)

theorem usable_kept (hk : Kept root other s) (h : Usable root s) : Usable other s := by
  intro t ht u hu
  have hroot := reached_kept hk.symm ht
  have hfaults := h t hroot u hu
  cases u with
  | reference r =>
    obtain ⟨_, -, hother⟩ := hk t r hroot hu
    rw [useFaults, hother]
  | pattern source => exact hfaults
  | fault cause => exact hfaults

theorem sound_in_kept (hk : Kept root other s) (h : SoundIn root s) : SoundIn other s :=
  ⟨h.shapes, usable_kept hk h.usable⟩

theorem own_of_refers_to_itself {r : String} (h : refersToItself s r = true) :
    .reference r ∈ s.ownUses := by
  unfold refersToItself at h
  split at h
  · rename_i target hl
    obtain rfl := beq_iff_eq.mp h
    cases s with
    | obj entries =>
      exact reference_mem.mpr (mem_of_entries.mpr ⟨"$ref", _, Entries.mem_of_lookup hl, rfl⟩)
    | _ => cases hl
  · cases h

theorem target_found {r : String} (hf : follow root r = .ok t)
    (hr : Use.reference r ∉ t.ownUses) (met : List String) :
    ∃ later, Spot.target? root met r = some ⟨t, later⟩ := by
  have hself : refersToItself t r = false :=
    Bool.eq_false_iff.mpr fun h => hr (own_of_refers_to_itself h)
  unfold Spot.target?
  rw [hf]
  dsimp only
  split
  · exact ⟨_, rfl⟩
  · rw [hself]
    exact ⟨[], rfl⟩

def asks (follow? : String → Option Schema) (part : Schema → Json → Bool) (v : Json) :
    Keyword Schema → Bool
  | .reference r => match follow? r with
    | some t => part t v
    | none => true
  | k => k.meets part v

theorem asks_meets {follow? : String → Option Schema} {part : Schema → Json → Bool} {v : Json}
    {k : Keyword Schema} (h : ∀ r, k ≠ .reference r) : asks follow? part v k = k.meets part v := by
  cases k with
  | reference r => exact absurd rfl (h r)
  | _ => rfl

/-- A schema that is read in a document asks what its keywords ask, if it does not matter which
references were met before. -/
theorem accepts_asks {root : Schema} {follow? : String → Option Schema} {n : Nat}
    {entries : Entries} {met : List String} {v : Json} {part : Schema → Json → Bool}
    (hp : ∀ k ∈ Keyword.ofEntries entries, ∀ t ∈ k.parts, ∀ x ∈ k.asked v, ∀ met,
      acceptsWithin root n ⟨t, met⟩ x = part t x)
    (hr : ∀ r, .reference r ∈ ownUses (.obj entries) → ∀ met, ∃ t later,
      follow? r = some t ∧ Spot.target? root met r = some ⟨t, later⟩ ∧
        acceptsWithin root n ⟨t, later⟩ v = part t v) :
    acceptsWithin root (n + 1) ⟨.obj entries, met⟩ v =
      (Keyword.ofEntries entries).all (asks follow? part v) := by
  rw [acceptsWithin]
  refine all_places fun here k hk => ?_
  have hmem := Spot.keyword_of_place hk
  by_cases href : ∃ r, k = .reference r
  · obtain ⟨r, rfl⟩ := href
    obtain ⟨t, later, hf, ht, ha⟩ := hr r (reference_mem.mpr hmem) here
    rw [Keyword.accepts, ht]
    change _ = asks follow? part v (.reference r)
    rw [asks, hf]
    exact ha
  · have hnone : ∀ r, k ≠ .reference r := fun r h => href ⟨r, h⟩
    rw [asks_meets fun r h => hnone r (reference_of_map h)]
    refine accepts_asked (fun spot hspot x hx => ?_) hnone
    refine hp _ hmem spot.schema ?_ x ?_ spot.met
    · rw [parts_map]
      exact List.mem_map_of_mem hspot
    · rw [asked_map]
      exact hx

/-- A measure of a schema with a value that descends with every step of evaluation. -/
structure Descends (root s : Schema) (f : Schema → Json → Nat) : Prop where
  leads : ∀ {t u : Schema} (v : Json), Reached root s t → Leads root t u → f u v < f t v
  inside : ∀ {t u : Schema} {v x : Json}, Reached root s t → Reached root s u → x ∈ v.inside →
    f u x < f t v

/-- If evaluation never comes back, the levels of the value, and on each level the schemas that a
schema leads to, are such a measure. -/
theorem exists_descends (hg : Guarded root s) {P : Finset Schema}
    (hP : ∀ t, Reached root s t → t ∈ P) : ∃ f, Descends root s f ∧
      ∀ t v, Reached root s t → f t v < P.card * (v.depth + 1) := by
  classical
  let below (t : Schema) : Finset Schema := {u ∈ P | Relation.TransGen (Leads root) t u}
  have hbelow {t : Schema} (ht : Reached root s t) : (below t).card < P.card := by
    apply Finset.card_lt_card
    refine (Finset.ssubset_iff_of_subset (Finset.filter_subset _ _)).mpr ⟨t, hP t ht, fun h => ?_⟩
    exact hg t ht (Finset.mem_filter.mp h).2
  -- a step goes down in the value, or stays with it and leaves fewer schemas below
  refine ⟨fun t v => P.card * v.depth + (below t).card, ⟨?_, ?_⟩, fun t v ht => ?_⟩
  · intro t u v ht hl
    apply Nat.add_lt_add_left
    apply Finset.card_lt_card
    have hu : Reached root s u := ht.leads hl
    have hsub : below u ⊆ below t := Finset.monotone_filter_right _ fun w _ hw => .head hl hw
    refine (Finset.ssubset_iff_of_subset hsub).mpr ⟨u, ?_, fun h => ?_⟩
    · exact Finset.mem_filter.mpr ⟨hP u hu, .single hl⟩
    · exact hg u hu (Finset.mem_filter.mp h).2
  · intro t u v x ht hu hx
    have hd : P.card * (x.depth + 1) ≤ P.card * v.depth :=
      Nat.mul_le_mul_left _ (Json.depth_of_inside hx)
    rw [Nat.mul_succ] at hd
    have := hbelow hu
    show P.card * x.depth + (below u).card < P.card * v.depth + (below t).card
    omega
  · have := hbelow ht
    show P.card * v.depth + (below t).card < P.card * (v.depth + 1)
    rw [Nat.mul_succ]
    omega

theorem Descends.part {f : Schema → Json → Nat} (hf : Descends root s f) {entries : Entries}
    (ht : Reached root s (.obj entries)) {k : Keyword Schema} (hk : k ∈ Keyword.ofEntries entries)
    {u : Schema} (hu : u ∈ k.parts) {v x : Json} (hx : x ∈ k.asked v) :
    f u x < f (.obj entries) v := by
  unfold Keyword.asked at hx
  split at hx
  · rename_i hplace
    rw [List.mem_singleton.mp hx]
    exact hf.leads v ht (.part hk hplace hu)
  · exact hf.inside ht (.part ht (reads_obj.mpr ⟨k, hk, hu⟩)) hx

/-- As long as the budget is above the measure, neither the document nor the budget matters. -/
theorem accepts_within_descends {f : Schema → Json → Nat} (hf : Descends root s f)
    (hk : Kept root other s) {n m : Nat} {v : Json} (ht : Reached root s t) (hn : f t v < n)
    (hm : f t v < m) (met met' : List String) :
    acceptsWithin root n ⟨t, met⟩ v = acceptsWithin other m ⟨t, met'⟩ v := by
  induction n generalizing m t v met met' with
  | zero => omega
  | succ n ih =>
    obtain ⟨m, rfl⟩ : ∃ k, m = k + 1 := ⟨m - 1, by omega⟩
    cases t with
    | obj entries =>
      have hpart (k : Keyword Schema) (hkw : k ∈ Keyword.ofEntries entries) (u : Schema)
          (hu : u ∈ k.parts) (x : Json) (hx : x ∈ k.asked v) (met met' : List String) :
          acceptsWithin root n ⟨u, met⟩ x = acceptsWithin other m ⟨u, met'⟩ x := by
        have := hf.part ht hkw hu hx
        exact ih (.part ht (reads_obj.mpr ⟨k, hkw, hu⟩)) (by omega) (by omega) met met'
      have href (r : String) (hr : .reference r ∈ ownUses (.obj entries)) :
          ∃ u, follow root r = .ok u ∧ follow other r = .ok u ∧ Use.reference r ∉ u.ownUses ∧
            ∀ met met', acceptsWithin root n ⟨u, met⟩ v = acceptsWithin other m ⟨u, met'⟩ v := by
        obtain ⟨u, hroot, hother⟩ := hk _ r ht hr
        have hu : Reached root s u := .target ht hr hroot
        have := hf.leads v ht (.target hr hroot)
        refine ⟨u, hroot, hother, fun h => ?_, ih hu (by omega) (by omega)⟩
        exact Nat.lt_irrefl _ (hf.leads v hu (.target h hroot))
      -- either side comes to what the keywords ask by the meaning that the other document gives
      have hroot : acceptsWithin root (n + 1) ⟨.obj entries, met⟩ v =
          (Keyword.ofEntries entries).all (asks (fun r => (follow root r).toOption)
            (fun u x => acceptsWithin other m ⟨u, []⟩ x) v) := by
        refine accepts_asks (fun k hkw u hu x hx met => hpart k hkw u hu x hx met []) ?_
        intro r hr met
        obtain ⟨u, hf, -, hself, ha⟩ := href r hr
        obtain ⟨later, htarget⟩ := target_found hf hself met
        exact ⟨u, later, by rw [hf]; rfl, htarget, ha later []⟩
      have hother : acceptsWithin other (m + 1) ⟨.obj entries, met'⟩ v =
          (Keyword.ofEntries entries).all (asks (fun r => (follow root r).toOption)
            (fun u x => acceptsWithin other m ⟨u, []⟩ x) v) := by
        refine accepts_asks (fun k hkw u hu x hx met =>
          (hpart k hkw u hu x hx [] met).symm.trans (hpart k hkw u hu x hx [] [])) ?_
        intro r hr met
        obtain ⟨u, hf, hfo, hself, ha⟩ := href r hr
        obtain ⟨later, htarget⟩ := target_found hfo hself met
        exact ⟨u, later, by rw [hf]; rfl, htarget, (ha [] later).symm.trans (ha [] [])⟩
      exact hroot.trans hother.symm
    | _ => rfl

theorem exists_descends_kept (hg : Guarded root s) (hk : Kept root other s)
    (hs : s ∈ Json.places root) (ho : s ∈ Json.places other) : ∃ f, Descends root s f ∧
      ∀ v, f s v < root.nodes * (v.depth + 1) ∧ f s v < other.nodes * (v.depth + 1) := by
  have hcard (d : Schema) : d.places.toFinset.card ≤ d.nodes :=
    (List.toFinset_card_le _).trans (Json.length_places d).le
  -- what is reached has a place in both documents, so the smaller of them bounds the measure
  let P : Finset Schema := root.places.toFinset ∩ other.places.toFinset
  have hleft : P.card ≤ root.nodes :=
    (Finset.card_le_card Finset.inter_subset_left).trans (hcard root)
  have hright : P.card ≤ other.nodes :=
    (Finset.card_le_card Finset.inter_subset_right).trans (hcard other)
  have hP (t : Schema) (ht : Reached root s t) : t ∈ P := by
    rw [Finset.mem_inter, List.mem_toFinset, List.mem_toFinset]
    exact ⟨places_of_reached ht hs, places_of_reached (reached_kept hk ht) ho⟩
  obtain ⟨f, hf, hbound⟩ := exists_descends hg hP
  refine ⟨f, hf, fun v => ?_⟩
  have hlt : f s v < P.card * (v.depth + 1) := hbound s v .start
  exact ⟨hlt.trans_le (Nat.mul_le_mul_right _ hleft), hlt.trans_le (Nat.mul_le_mul_right _ hright)⟩

/-- A schema that stands in two documents and refers to the same in both accepts the same. -/
theorem accepts_within_kept (hg : Guarded root s) (hk : Kept root other s)
    (hs : s ∈ Json.places root) (ho : s ∈ Json.places other) {n m : Nat} {v : Json}
    (hn : root.nodes * (v.depth + 1) ≤ n) (hm : other.nodes * (v.depth + 1) ≤ m)
    (met met' : List String) :
    acceptsWithin root n ⟨s, met⟩ v = acceptsWithin other m ⟨s, met'⟩ v := by
  obtain ⟨f, hf, hbound⟩ := exists_descends_kept hg hk hs ho
  obtain ⟨hroot, hother⟩ := hbound v
  exact accepts_within_descends hf hk .start (hroot.trans_le hn) (hother.trans_le hm) met met'

def acceptsIn (root s : Schema) (v : Json) : Bool := acceptsWithin root (budget root v) ⟨s, []⟩ v

/-- What a schema accepts in a document depends neither on the budget, if there is enough, nor on
the references that were met before. -/
def Steady (root s : Schema) : Prop :=
  ∀ (v : Json) (n : Nat) (met : List String), root.nodes * (v.depth + 1) ≤ n →
    acceptsWithin root (n + 1) ⟨s, met⟩ v = acceptsIn root s v

theorem enough_budget (root : Schema) (v : Json) : root.nodes * (v.depth + 1) ≤ budget root v := by
  have : root.nodes * (v.depth + 1) ≤ root.nodes * (v.depth + 2) :=
    Nat.mul_le_mul_left _ (by omega)
  unfold budget
  omega

theorem accepts_in_kept (hg : Guarded root s) (hk : Kept root other s) (hs : s ∈ Json.places root)
    (ho : s ∈ Json.places other) (v : Json) : acceptsIn root s v = acceptsIn other s v :=
  accepts_within_kept hg hk hs ho (enough_budget root v) (enough_budget other v) [] []

structure Settled (root s : Schema) : Prop where
  guarded : Guarded root s
  alive : Kept root root s

theorem Settled.reached (h : Settled root s) (ht : Reached root s t) : Settled root t :=
  ⟨fun _ hu => h.guarded _ (ht.trans hu), h.alive.reached ht⟩

theorem Settled.accepts_within (h : Settled root s) (hs : s ∈ Json.places root) {n : Nat} {v : Json}
    (hn : root.nodes * (v.depth + 1) ≤ n) (met : List String) :
    root.acceptsWithin n ⟨s, met⟩ v = acceptsIn root s v :=
  accepts_within_kept h.guarded h.alive hs hs hn (enough_budget root v) met []

theorem Settled.steady (h : Settled root s) (hs : s ∈ Json.places root) : Steady root s :=
  fun _ _ met hn => h.accepts_within hs (Nat.le_succ_of_le hn) met

theorem steady_of_not_obj (h : ∀ members, s ≠ .obj members) : Steady root s := by
  intro v n met _
  cases s with
  | obj members => exact absurd rfl (h members)
  | _ => rfl

theorem alive_of_usable (h : Usable root s) : Kept root root s := by
  intro t r ht hr
  have hf := h t ht _ hr
  unfold useFaults at hf
  dsimp only at hf
  split at hf
  · rename_i u hu
    exact ⟨u, hu, hu⟩
  · cases hf

theorem leads_kept (hk : Kept root other s) (ht : Reached root s t) {u : Schema}
    (hl : Leads other t u) : Leads root t u := by
  cases hl with
  | part hkw hp hu => exact .part hkw hp hu
  | target hr hu =>
    obtain ⟨w, hroot, hother⟩ := hk _ _ ht hr
    rw [hu] at hother
    cases hother
    exact .target hr hroot

theorem guarded_kept (hk : Kept root other s) (h : Guarded root s) : Guarded other s := by
  intro t ht hcycle
  have hback {u w : Schema} (hu : Reached root s u) (h' : Relation.TransGen (Leads other) u w) :
      Reached root s w ∧ Relation.TransGen (Leads root) u w := by
    induction h' with
    | single hl =>
      have hl := leads_kept hk hu hl
      exact ⟨hu.leads hl, .single hl⟩
    | tail _ hl ih =>
      have hl := leads_kept hk ih.1 hl
      exact ⟨ih.1.leads hl, .tail ih.2 hl⟩
  have hroot := reached_kept hk.symm ht
  exact h t hroot (hback hroot hcycle).2

theorem Settled.kept (h : Settled root s) (hk : Kept root other s) : Settled other s := by
  refine ⟨guarded_kept hk h.guarded, fun t r ht hr => ?_⟩
  obtain ⟨u, hother, -⟩ := hk.symm t r ht hr
  exact ⟨u, hother, hother⟩

structure Faithful (root s : Schema) : Prop where
  guarded : Guarded s s
  kept : Kept s root s

theorem Faithful.settled (h : Faithful root s) : Settled root s := by
  have halive : Kept s s s := fun t r ht hr => by
    obtain ⟨u, hself, -⟩ := h.kept t r ht hr
    exact ⟨u, hself, hself⟩
  exact Settled.kept ⟨h.guarded, halive⟩ h.kept

theorem self_contained_reached (hs : s.selfContained = true) (ht : Reached root s t) :
    t.selfContained = true ∧ ∀ r, .reference r ∉ t.ownUses := by
  have hown {u : Schema} (hu : u.selfContained = true) (r : String) : .reference r ∉ u.ownUses := by
    intro hr
    cases u with
    | obj entries => exact no_reference hu (reference_mem.mp hr) r rfl
    | bool b => cases hr
    | _ => cases List.mem_singleton.mp hr
  induction ht with
  | start => exact ⟨hs, hown hs⟩
  | part _ hu ih =>
    obtain ⟨entries, rfl, k, hk, ht⟩ := hu
    have hpart := self_contained_part ih.1 (part_of_of_keyword hk ht)
    exact ⟨hpart, hown hpart⟩
  | target _ hr _ ih => exact absurd hr (ih.2 _)

theorem guarded_of_measure (f : Schema → Nat)
    (h : ∀ t u, Reached root s t → Leads root t u → f u < f t) : Guarded root s := by
  intro t ht hcycle
  have hdescends {u w : Schema} (hu : Reached root s u) (h' : Relation.TransGen (Leads root) u w) :
      Reached root s w ∧ f w < f u := by
    induction h' with
    | single hl => exact ⟨hu.leads hl, h _ _ hu hl⟩
    | tail _ hl ih => exact ⟨ih.1.leads hl, (h _ _ ih.1 hl).trans ih.2⟩
  exact Nat.lt_irrefl _ (hdescends ht hcycle).2

/-- A self-contained schema means the same in every document. -/
theorem faithful_of_self_contained (hs : s.selfContained = true) : Faithful root s := by
  have hown {t : Schema} (ht : Reached s s t) (r : String) : .reference r ∉ t.ownUses :=
    (self_contained_reached hs ht).2 r
  refine ⟨guarded_of_measure Json.depth fun t u ht hl => ?_, fun t r ht hr => absurd hr (hown ht r)⟩
  cases hl with
  | part hk _ hp => exact depth_of_reads (reads_obj.mpr ⟨_, hk, hp⟩)
  | target hr _ => exact absurd hr (hown ht _)

def keywords : Schema → List (Keyword Schema)
  | .obj entries => Keyword.ofEntries entries
  | _ => []

def references (s : Schema) : List String :=
  s.ownUses.filterMap fun u => match u with
    | .reference r => some r
    | _ => none

theorem mem_references {r : String} : r ∈ s.references ↔ .reference r ∈ s.ownUses := by
  unfold references
  rw [List.mem_filterMap]
  constructor
  · rintro ⟨u, hu, h⟩
    split at h
    · cases h
      exact hu
    · cases h
  · exact fun h => ⟨_, h, rfl⟩

/-- A list of schemas with all that they read and refer to in one document. Each stands behind those
that its evaluation goes on to with the same value, and its references lead to the same in another
document. -/
def Charted (root other : Schema) (chart : List Schema) : Prop :=
  ∀ t ∈ chart,
    (∀ k ∈ t.keywords, ∀ u ∈ k.parts,
      u ∈ chart ∧ (k.inPlace = true → chart.idxOf u < chart.idxOf t)) ∧
    ∀ r ∈ t.references, ∃ u ∈ chart, follow root r = .ok u ∧ follow other r = .ok u ∧
      chart.idxOf u < chart.idxOf t

instance (root other : Schema) (chart : List Schema) : Decidable (Charted root other chart) :=
  inferInstanceAs (Decidable (∀ t ∈ chart, _))

theorem Charted.reached {chart : List Schema} (h : Charted root other chart) (hs : s ∈ chart)
    (ht : Reached root s t) : t ∈ chart := by
  induction ht with
  | start => exact hs
  | part _ hu ih =>
    obtain ⟨entries, rfl, k, hk, hu⟩ := hu
    exact ((h _ ih).1 k hk _ hu).1
  | target _ hr hu ih =>
    obtain ⟨w, hw, hf, -⟩ := (h _ ih).2 _ (mem_references.mpr hr)
    rw [hu] at hf
    cases hf
    exact hw

/-- A schema of a chart means the same in the other document. -/
theorem Charted.faithful {chart : List Schema} (h : Charted s root chart) (hs : s ∈ chart) :
    Faithful root s := by
  refine ⟨guarded_of_measure chart.idxOf fun t u ht hl => ?_, fun t r ht hr => ?_⟩
  · have hmem := h.reached hs ht
    cases hl with
    | part hk hp hu => exact ((h _ hmem).1 _ hk _ hu).2 hp
    | target hr hu =>
      obtain ⟨w, -, hf, -, hlt⟩ := (h _ hmem).2 _ (mem_references.mpr hr)
      rw [hu] at hf
      cases hf
      exact hlt
  · obtain ⟨u, -, hroot, hother, -⟩ := (h _ (h.reached hs ht)).2 r (mem_references.mpr hr)
    exact ⟨u, hroot, hother⟩

end Schema

end CallContract
