import CallContract.Proofs.Schema.Cell
import CallContract.Proofs.Schema.Faithful
import CallContract.Proofs.Schema.Violation

/-!
# Explanations account for refusals

At every budget the list of violations is empty exactly if the value is
accepted, and every violation points at a part of the value. If evaluation never
comes back to a schema with the same value, a larger budget changes neither, so
what an explainer says of a value is what an evaluation without any budget would
say.
-/

set_option autoImplicit false

namespace CallContract

namespace Schema

open Keyword

variable {root s t : Schema} {f : Schema → Json → Nat} {v : Json}

/-- The two traversals agree. -/
theorem violations_within_nil (root : Schema) (n : Nat) (spot : Spot) (v : Json) :
    violationsWithin root n spot v = [] ↔ acceptsWithin root n spot v = true := by
  induction n generalizing spot v with
  | zero => exact iff_of_true rfl rfl
  | succ n ih =>
    obtain ⟨schema, met⟩ := spot
    cases schema with
    | bool b =>
      cases b with
      | true => exact iff_of_true rfl rfl
      | false => exact iff_of_false (List.cons_ne_nil _ _) Bool.false_ne_true
    | obj entries =>
      rw [violationsWithin, acceptsWithin, List.flatMap_eq_nil_iff, List.all_eq_true]
      exact forall₂_congr fun place _ => violations_nil ih
    | _ => exact iff_of_true rfl rfl

theorem violations_within_way (root : Schema) (n : Nat) (spot : Spot) (v : Json) :
    ∀ w ∈ violationsWithin root n spot v, ∃ y, Json.Way v w.instanceAt y := by
  induction n generalizing spot v with
  | zero => exact fun w hw => nomatch hw
  | succ n ih =>
    obtain ⟨schema, met⟩ := spot
    cases schema with
    | bool b =>
      cases b with
      | true => exact fun w hw => nomatch hw
      | false =>
        intro w hw
        rw [List.mem_singleton.mp hw]
        exact ⟨v, .here v⟩
    | obj entries =>
      intro w hw
      rw [violationsWithin] at hw
      obtain ⟨place, -, hw⟩ := List.mem_flatMap.mp hw
      exact violations_way ih w hw
    | _ => exact fun w hw => nomatch hw

theorem follow_of_target {met : List String} {r : String} {spot : Spot}
    (h : Spot.target? root met r = some spot) : follow root r = .ok spot.schema := by
  unfold Spot.target? at h
  split at h
  · cases h
  · rename_i u hu
    rw [hu]
    split at h
    · cases h
      rfl
    · split at h
      · cases h
      · cases h
        rfl

theorem Descends.spots (hf : Descends root s f) {entries : Entries} {met here : List String}
    (ht : Reached root s (.obj entries)) {k : Keyword Spot}
    (hk : (here, k) ∈ Spot.places root met (Keyword.ofEntries entries)) {spot : Spot}
    (hs : spot ∈ k.spots (Spot.target? root here)) {x : Json} (hx : x ∈ k.asked v) :
    Reached root s spot.schema ∧ f spot.schema x < f (.obj entries) v := by
  have hmem := Spot.keyword_of_place hk
  by_cases href : ∃ r, k = .reference r
  · obtain ⟨r, rfl⟩ := href
    have hr : Use.reference r ∈ ownUses (.obj entries) := reference_mem.mpr hmem
    have hfollow := follow_of_target (Option.mem_toList.mp hs)
    rw [List.mem_singleton.mp hx]
    exact ⟨.target ht hr hfollow, hf.leads v ht (.target hr hfollow)⟩
  · have hpart : spot.schema ∈ (k.map Spot.schema).parts := by
      rw [parts_map]
      apply List.mem_map_of_mem
      unfold Keyword.spots at hs
      split at hs
      · exact absurd ⟨_, rfl⟩ href
      · exact hs
    rw [← asked_map Spot.schema] at hx
    exact ⟨.part ht (reads_obj.mpr ⟨_, hmem, hpart⟩), hf.part ht hmem hpart hx⟩

theorem accepts_agree {n m : Nat} {here : List String} {k : Keyword Spot}
    (h : ∀ spot ∈ k.spots (Spot.target? root here), ∀ x ∈ k.asked v, ∀ met met',
      acceptsWithin root n ⟨spot.schema, met⟩ x = acceptsWithin root m ⟨spot.schema, met'⟩ x) :
    k.accepts (Spot.target? root here) (acceptsWithin root n) v =
      k.accepts (Spot.target? root here) (acceptsWithin root m) v := by
  by_cases href : ∃ r, k = .reference r
  · obtain ⟨r, rfl⟩ := href
    rw [Keyword.accepts, Keyword.accepts]
    cases ht : Spot.target? root here r with
    | none => rfl
    | some spot => exact h spot (Option.mem_toList.mpr ht) v (List.mem_singleton_self v) _ _
  · have hnone (r : String) : k ≠ .reference r := fun h => href ⟨r, h⟩
    let part (u : Schema) (x : Json) : Bool := acceptsWithin root m ⟨u, []⟩ x
    have hleft : k.accepts (Spot.target? root here) (acceptsWithin root n) v =
        (k.map Spot.schema).meets part v :=
      accepts_asked (fun spot hs x hx => h spot (part_mem_spots hs) x hx spot.met []) hnone
    have hright : k.accepts (Spot.target? root here) (acceptsWithin root m) v =
        (k.map Spot.schema).meets part v := by
      refine accepts_asked (fun spot hs x hx => ?_) hnone
      have hagree := h spot (part_mem_spots hs) x hx []
      exact (hagree spot.met).symm.trans (hagree [])
    exact hleft.trans hright.symm

theorem violations_within_descends (hf : Descends root s f) (hk : Kept root root s) {n m : Nat}
    (ht : Reached root s t) (hn : f t v < n) (hm : f t v < m) (met : List String) :
    violationsWithin root n ⟨t, met⟩ v = violationsWithin root m ⟨t, met⟩ v := by
  induction n generalizing m t v met with
  | zero => omega
  | succ n ih =>
    obtain ⟨m, rfl⟩ : ∃ k, m = k + 1 := ⟨m - 1, by omega⟩
    cases t with
    | obj entries =>
      rw [violationsWithin, violationsWithin]
      apply List.flatMap_congr
      rintro ⟨here, k⟩ hplace
      have haccepts (spot : Spot) (hs : spot ∈ k.spots (Spot.target? root here)) (x : Json)
          (hx : x ∈ k.asked v) (met met' : List String) :
          acceptsWithin root n ⟨spot.schema, met⟩ x =
            acceptsWithin root m ⟨spot.schema, met'⟩ x := by
        obtain ⟨hreach, hlt⟩ := hf.spots ht hplace hs hx
        exact accepts_within_descends hf hk hreach (by omega) (by omega) met met'
      apply violations_congr (accepts_agree haccepts)
      · intro spot hs x hx
        exact haccepts spot (part_mem_spots hs) x hx spot.met spot.met
      · intro spot hs x hx
        obtain ⟨hreach, hlt⟩ := hf.spots ht hplace hs hx
        exact ih hreach (by omega) (by omega) spot.met
    | bool b => cases b <;> rfl
    | _ => rfl

/-- Whatever budget there is beyond what evaluation needs, the violations are the same. -/
theorem Settled.violations_within (h : Settled root s) (hs : s ∈ Json.places root) {n m : Nat}
    (hn : root.nodes * (v.depth + 1) ≤ n) (hm : root.nodes * (v.depth + 1) ≤ m)
    (met : List String) :
    root.violationsWithin n ⟨s, met⟩ v = root.violationsWithin m ⟨s, met⟩ v := by
  obtain ⟨f, hf, hbound⟩ := exists_descends_kept h.guarded h.alive hs hs
  obtain ⟨henough, -⟩ := hbound v
  exact violations_within_descends hf h.alive .start (henough.trans_le hn) (henough.trans_le hm) met

end Schema

/-- An explanation accounts for a value that a schema refuses. -/
structure Explanation.Accounts (why : Explanation) (s : Schema) (v : Json) : Prop where
  value : why.value = v
  /-- If evaluation ends, these are the violations that any larger budget finds. -/
  complete : s.Guarded s → ∀ n, s.nodes * (v.depth + 1) ≤ n →
    why.violations = s.violationsWithin n ⟨s, []⟩ v
  nonempty : why.violations ≠ []
  /-- Each points at a part of the value, and so does the text of its pointer. Objects are in key
  order in all that is read from text (`Json.parse_ordered`). -/
  located : v.Ordered → ∀ w ∈ why.violations, ∃ x, v.at? w.instanceAt = some x ∧
    (v.Countable → v.atText? w.instanceAt.text = some x)

/-- An explainer accounts for what it refuses, and for nothing else. -/
structure Explainer.Explains (e : Explainer) : Prop where
  /-- If evaluation ends, the decision is that of any larger budget. -/
  decided : e.schema.Guarded e.schema → ∀ v n, e.schema.nodes * (v.depth + 1) ≤ n →
    e.schema.acceptsWithin n ⟨e.schema, []⟩ v = e.isValid v
  silent : ∀ v, e.explain v = none ↔ e.isValid v = true
  accounts : ∀ v why, e.explain v = some why → why.Accounts e.schema v

namespace Schema

variable {s : Schema}

theorem settled_of_check (hs : s.check = .ok ()) (hg : Guarded s s) : Settled s s :=
  ⟨hg, alive_of_usable ((check_iff s).mp hs).usable⟩

/-- Every evaluation with enough of a budget comes to this verdict. -/
def Decides (s : Schema) (v : Json) (verdict : Bool) : Prop :=
  ∀ n, s.nodes * (v.depth + 1) ≤ n → s.acceptsWithin n ⟨s, []⟩ v = verdict

theorem Decides.accepts {v : Json} {verdict : Bool} (h : s.Decides v verdict) :
    s.accepts v = verdict := h _ (enough_budget s v)

theorem decides_of_guarded (hs : s.check = .ok ()) (hg : Guarded s s) (v : Json) :
    s.Decides v (s.accepts v) := fun _ hn =>
  (settled_of_check hs hg).accepts_within (Json.self_mem_places s) hn []

/-- The violations of a value that is refused account for it. -/
theorem accounts_of_refused (hs : s.check = .ok ()) {v : Json} (hv : s.accepts v = false) :
    (Explanation.mk v (s.violations v)).Accounts s v := by
  refine ⟨rfl, fun hg n hn => ?_, fun hnil => ?_, fun ho w hw => ?_⟩
  · have hsettled : Settled s s := settled_of_check hs hg
    exact hsettled.violations_within (Json.self_mem_places s) (enough_budget s v) hn []
  · have htrue : s.accepts v = true := (violations_within_nil s (budget s v) ⟨s, []⟩ v).mp hnil
    rw [hv] at htrue
    cases htrue
  · obtain ⟨x, hway⟩ := violations_within_way s (budget s v) ⟨s, []⟩ v w hw
    exact ⟨x, hway.at_eq ho, hway.at_text_eq ho⟩

end Schema

theorem Explainer.explains {e : Explainer} (hs : e.schema.check = .ok ()) : e.Explains := by
  refine ⟨fun hg v n hn => ?_, fun v => ?_, fun v why hwhy => ?_⟩
  · exact Schema.decides_of_guarded hs hg v n hn
  · unfold explain
    cases e.isValid v <;> simp
  · unfold explain at hwhy
    split at hwhy
    · cases hwhy
    · rename_i hv
      cases hwhy
      exact Schema.accounts_of_refused hs (Bool.eq_false_iff.mpr hv)

end CallContract
