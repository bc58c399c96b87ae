import CallContract.Proofs.Json.Ordered
import CallContract.Proofs.Schema.Faithful
import CallContract.Proofs.Schema.Shape

/-!
# What sequences and their concatenation accept

A sequence whose keywords can be moved asks four things of a list: bounds on its
length, a schema for each of its first items, and one for all others. Appending
such a sequence to a tuple makes a document that asks for the lists that split,
after the length of the tuple, into what both ask for.
-/

set_option autoImplicit false

namespace CallContract.Schema

open Keyword

/-- A meaning of schemas under which the schemas of everything and nothing are what they are, and
what is no schema asks nothing. -/
structure Literal (part : Schema → Json → Bool) : Prop where
  bool (b : Bool) (x : Json) : part (.bool b) x = b
  other (s : Schema) (x : Json) (hb : ∀ b, s ≠ .bool b) (ho : ∀ entries, s ≠ .obj entries) :
    part s x = true

def within (root : Schema) (n : Nat) (s : Schema) (x : Json) : Bool :=
  acceptsWithin root (n + 1) ⟨s, []⟩ x

theorem literal_within (root : Schema) (n : Nat) : Literal (within root n) := by
  refine ⟨fun _ _ => rfl, fun s x hb ho => ?_⟩
  cases s with
  | bool b => exact absurd rfl (hb b)
  | obj entries => exact absurd rfl (ho entries)
  | _ => rfl

def Fits (part : Schema → Json → Bool) (elements : List Schema) (others : Schema)
    (least most : Option Nat) (xs : List Json) : Prop :=
  (∀ n ∈ least, n ≤ xs.length) ∧ (∀ n ∈ most, xs.length ≤ n) ∧
    (∀ p ∈ elements.zip xs, part p.1 p.2 = true) ∧
      ∀ x ∈ xs.drop elements.length, part others x = true

theorem zip_append_drop (A B : List Schema) (xs : List Json) (h : A.length ≤ xs.length) :
    (A ++ B).zip xs = A.zip xs ++ B.zip (xs.drop A.length) := by
  induction A generalizing xs with
  | nil => rfl
  | cons s A ih =>
    cases xs with
    | nil => cases h
    | cons x xs =>
      rw [List.cons_append, List.zip_cons_cons, ih xs (by simpa using h)]
      rfl

variable {part : Schema → Json → Bool}

/-- Bounds and items behind a head are those of the tail on what the head leaves. -/
theorem fits_append (part : Schema → Json → Bool) (A B : List Schema) (others : Schema)
    (least : Nat) (most : Option Nat) (xs : List Json) :
    Fits part (A ++ B) others (some (A.length + least)) (most.map (A.length + ·)) xs ↔
      A.length ≤ xs.length ∧ (∀ p ∈ A.zip xs, part p.1 p.2 = true) ∧
        Fits part B others (some least) most (xs.drop A.length) := by
  by_cases h : A.length ≤ xs.length
  · have hlow : A.length + least ≤ xs.length ↔ least ≤ xs.length - A.length := by omega
    have hhigh (n : Nat) : xs.length ≤ A.length + n ↔ xs.length - A.length ≤ n := by omega
    simp only [Fits, zip_append_drop A B xs h, List.length_append, List.drop_drop,
      List.length_drop, Option.mem_def, Option.some.injEq, forall_eq', Option.map_eq_some_iff,
      List.mem_append, h, true_and, hlow]
    constructor
    · rintro ⟨hl, hm, hz, hd⟩
      exact ⟨fun p hp => hz p (.inl hp), hl, fun n hn => (hhigh n).mp (hm _ ⟨n, hn, rfl⟩),
        fun p hp => hz p (.inr hp), hd⟩
    · rintro ⟨ha, hl, hm, hb, hd⟩
      refine ⟨hl, ?_, fun p hp => hp.elim (ha p) (hb p), hd⟩
      rintro _ ⟨n, hn, rfl⟩
      exact (hhigh n).mpr (hm n hn)
  · constructor
    · intro hf
      have := hf.1 _ rfl
      omega
    · intro hf
      exact absurd hf.1 h

theorem fits_least {elements : List Schema} {others : Schema} {least most : Option Nat}
    {xs : List Json} : Fits part elements others (some (least.getD 0)) most xs ↔
      Fits part elements others least most xs := by
  cases least <;> simp [Fits]

theorem fits_closed {elements : List Schema} {xs : List Json}
    (hnothing : ∀ x, part (.bool false) x = false) :
    Fits part elements (.bool false) (some elements.length) none xs ↔
      (∀ p ∈ elements.zip xs, part p.1 p.2 = true) ∧ xs.length = elements.length := by
  constructor
  · rintro ⟨hleast, -, hzip, hdrop⟩
    have hle : elements.length ≤ xs.length := hleast _ rfl
    have hempty : xs.drop elements.length = [] :=
      List.eq_nil_iff_forall_not_mem.mpr fun x hx =>
        Bool.false_ne_true ((hnothing x).symm.trans (hdrop x hx))
    have hge := List.drop_eq_nil_iff.mp hempty
    exact ⟨hzip, by omega⟩
  · rintro ⟨hzip, hlength⟩
    refine ⟨fun n hn => ?_, by simp, hzip, fun x hx => ?_⟩
    · cases hn
      omega
    · rw [List.drop_eq_nil_of_le (by omega)] at hx
      cases hx

theorem fits_congr {other : Schema → Json → Bool} {elements : List Schema} {others : Schema}
    {least most : Option Nat} {xs : List Json}
    (h : ∀ s, s ∈ elements ∨ s = others → ∀ x ∈ xs, part s x = other s x) :
    Fits part elements others least most xs ↔ Fits other elements others least most xs := by
  refine and_congr_right fun _ => and_congr_right fun _ => and_congr ?_ ?_
  · refine forall₂_congr fun p hp => ?_
    rw [h p.1 (.inl (List.of_mem_zip hp).1) p.2 (List.of_mem_zip hp).2]
  · refine forall₂_congr fun x hx => ?_
    rw [h others (.inr rfl) x (List.mem_of_mem_drop hx)]

def keys : Schema → List String
  | .obj entries => entries.map (·.1)
  | _ => []

theorem keys_of_ordered {s : Schema} (h : Json.Ordered s) : s.keys.Nodup := by
  cases h with
  | obj ascending => exact ascending.nodup
  | _ => exact List.nodup_nil

theorem nodup_of_parse {text : String} {s : Schema} (h : Json.parse text = .ok s) :
    s.keys.Nodup := keys_of_ordered (Json.parse_ordered h)

def positional (entries : Entries) : List Schema :=
  match entries.lookup "prefixItems" with
  | some (.arr schemas) => schemas
  | _ => []

def ItemSchema (entries : Entries) (s : Schema) : Prop :=
  s ∈ positional entries ∨ s = (entries.lookup "items").getD any

def limit? (entries : Entries) (keyword : String) : Option Nat :=
  match entries.lookup keyword with
  | some (.num n) => n.toLimit?
  | _ => none

def Meets (part : Schema → Json → Bool) (entries : Entries) (v : Json) (key : String) : Prop :=
  ∀ value, entries.lookup key = some value → ∀ k, read entries key value = .ok (some k) →
    k.meets part v = true

theorem all_meets {entries : Entries} (hn : (entries.map (·.1)).Nodup) (v : Json) :
    ((Keyword.ofEntries entries).all fun k => k.meets part v) = true ↔
      ∀ key ∈ entries.map (·.1), Meets part entries v key := by
  rw [List.all_eq_true]
  constructor
  · intro h key _ value hv k hk
    exact h k (mem_of_entries.mpr ⟨key, value, Entries.mem_of_lookup hv, hk⟩)
  · intro h k hk
    obtain ⟨key, value, hm, hr⟩ := mem_of_entries.mp hk
    exact h key (List.mem_map.mpr ⟨_, hm, rfl⟩) value (Entries.lookup_of_mem hn hm) k hr

theorem meets_limit {entries : Entries} {key : String} {make : Nat → Keyword Schema}
    {xs : List Json} {holds : Nat → Prop}
    (hr : ∀ value, read entries key value = ofLimit make value)
    (hm : ∀ n, (make n).meets part (.arr xs) = true ↔ holds n) :
    Meets part entries (.arr xs) key ↔ ∀ n ∈ limit? entries key, holds n := by
  constructor
  · intro h n hn
    unfold limit? at hn
    split at hn
    · rename_i m hl
      apply (hm n).mp
      apply h _ hl
      rw [hr, ofLimit, hn]
      rfl
    · cases hn
  · intro h value hv k hk
    rw [hr] at hk
    obtain ⟨m, n, rfl, hn, rfl⟩ := of_limit_found hk
    apply (hm n).mpr
    apply h
    simp [limit?, hv, hn]

theorem meets_min_items (entries : Entries) (xs : List Json) :
    Meets part entries (.arr xs) "minItems" ↔ ∀ n ∈ limit? entries "minItems", n ≤ xs.length :=
  meets_limit (fun _ => rfl) fun _ => decide_eq_true_iff

theorem meets_max_items (entries : Entries) (xs : List Json) :
    Meets part entries (.arr xs) "maxItems" ↔ ∀ n ∈ limit? entries "maxItems", xs.length ≤ n :=
  meets_limit (fun _ => rfl) fun _ => decide_eq_true_iff

theorem meets_prefix (entries : Entries) (xs : List Json) :
    Meets part entries (.arr xs) "prefixItems" ↔
      ∀ p ∈ (positional entries).zip xs, part p.1 p.2 = true := by
  constructor
  · intro h
    unfold positional
    split
    · rename_i items hl
      have hm := h _ hl (.prefixItems items) rfl
      rw [meets_prefix_items, List.all_eq_true] at hm
      exact hm
    · simp
  · intro h value hv k hk
    obtain ⟨items, rfl, rfl⟩ := of_list_found hk
    rw [meets_prefix_items, List.all_eq_true]
    simpa [positional, hv] using h

theorem prefix_count_positional (entries : Entries) :
    prefixCount entries = (positional entries).length := by
  unfold prefixCount positional
  cases entries.lookup "prefixItems" with
  | none => rfl
  | some value => cases value <;> rfl

theorem read_items (hp : Literal part) (entries : Entries) {s : Schema}
    (hl : ∀ schemas, s ≠ .arr schemas) :
    Keyword.read entries "items" s = .ok (some (.items (prefixCount entries) s)) ∨
      Keyword.read entries "items" s = .ok none ∧ ∀ x, part s x = true := by
  cases s with
  | arr schemas => exact absurd rfl (hl schemas)
  | obj members => exact .inl rfl
  | bool b =>
    cases b with
    | true => exact .inr ⟨rfl, hp.bool true⟩
    | false => exact .inl rfl
  | _ => exact .inr ⟨rfl, fun x => hp.other _ x (by simp) (by simp)⟩

theorem meets_items (hp : Literal part) (entries : Entries) (xs : List Json)
    (hl : ∀ schemas, entries.lookup "items" ≠ some (.arr schemas)) :
    Meets part entries (.arr xs) "items" ↔ ∀ x ∈ xs.drop (positional entries).length,
      part ((entries.lookup "items").getD any) x = true := by
  cases hi : entries.lookup "items" with
  | none =>
    constructor
    · intro _ x _
      exact hp.bool true x
    · intro _ value hv
      rw [hi] at hv
      cases hv
  | some s =>
    rw [← prefix_count_positional, ← List.all_eq_true, Option.getD_some]
    rcases read_items hp entries fun schemas hs => hl schemas (hs ▸ hi) with hr | ⟨hr, ha⟩
    · constructor
      · intro h
        exact h s hi _ hr
      · intro h value hv k hk
        rw [hi] at hv
        cases hv
        rw [hr] at hk
        cases hk
        exact h
    · constructor
      · intro _
        exact List.all_eq_true.mpr fun x _ => ha x
      · intro _ value hv k hk
        rw [hi] at hv
        cases hv
        rw [hr] at hk
        cases hk

structure Movable (entries : Entries) : Prop where
  nodup : (entries.map (·.1)).Nodup
  keys : ∀ key ∈ entries.map (·.1), key ∈ movable
  isSequence : entries.lookup "type" = some (.str "array")
  items : ∀ schemas, entries.lookup "items" ≠ some (.arr schemas)

theorem Movable.others {entries : Entries} (h : Movable entries) (schemas : List Schema) :
    (entries.lookup "items").getD any ≠ .arr schemas := by
  intro he
  cases hx : entries.lookup "items" with
  | none =>
    rw [hx] at he
    cases he
  | some x =>
    rw [hx] at he
    exact h.items schemas (hx.trans (congrArg some he))

/-- What the entries of a movable sequence ask of a list. -/
theorem meets_sequence (hp : Literal part) {entries : Entries} (h : Movable entries)
    (xs : List Json) : ((Keyword.ofEntries entries).all fun k => k.meets part (.arr xs)) = true ↔
      Fits part (positional entries) ((entries.lookup "items").getD any)
        (limit? entries "minItems") (limit? entries "maxItems") xs := by
  rw [all_meets h.nodup, Fits, ← meets_min_items, ← meets_max_items, ← meets_prefix,
    ← meets_items hp entries xs h.items]
  constructor
  · intro hall
    have hmeets (key : String) : Meets part entries (.arr xs) key := by
      intro value hv
      exact hall key (List.mem_map.mpr ⟨_, Entries.mem_of_lookup hv, rfl⟩) value hv
    exact ⟨hmeets _, hmeets _, hmeets _, hmeets _⟩
  · rintro ⟨hmin, hmax, hprefix, hitems⟩ key hkey
    have hm := h.keys key hkey
    simp only [movable, List.mem_cons, List.not_mem_nil, or_false] at hm
    rcases hm with rfl | rfl | rfl | rfl | rfl | rfl | rfl | rfl
    · intro value hv k hr
      rw [h.isSequence] at hv
      cases hv
      cases hr
      rfl
    · exact hprefix
    · exact hitems
    · exact hmin
    · exact hmax
    all_goals
      intro value _ k hr
      cases hr

theorem parts_of_movable {entries : Entries} (h : Movable entries) {k : Keyword Schema}
    (hk : k ∈ Keyword.ofEntries entries) : (∀ r, k ≠ .reference r) ∧ ∀ t ∈ k.parts,
      k.inPlace = false ∧ ItemSchema entries t := by
  obtain ⟨key, value, hm, hr⟩ := mem_of_entries.mp hk
  have hv := Entries.lookup_of_mem h.nodup hm
  have hkey := h.keys key (List.mem_map.mpr ⟨_, hm, rfl⟩)
  simp only [movable, List.mem_cons, List.not_mem_nil, or_false] at hkey
  rcases hkey with rfl | rfl | rfl | rfl | rfl | rfl | rfl | rfl
  · rcases of_type_found hr with ⟨_, rfl⟩ | ⟨_, rfl⟩
    · exact ⟨fun _ h => (nomatch h), fun _ h => (nomatch h)⟩
    · exact ⟨fun _ h => (nomatch h), fun _ h => (nomatch h)⟩
  · obtain ⟨items, rfl, rfl⟩ := of_list_found hr
    refine ⟨fun _ h => (nomatch h), fun t ht => ⟨rfl, .inl ?_⟩⟩
    rw [positional, hv]
    exact ht
  · have hitem : ItemSchema entries value := .inr (by rw [hv, Option.getD_some])
    cases value with
    | arr schemas => exact absurd hv (h.items schemas)
    | obj members =>
      cases hr
      exact ⟨fun _ h => (nomatch h), fun t ht => ⟨rfl, List.mem_singleton.mp ht ▸ hitem⟩⟩
    | bool b =>
      cases b <;> cases hr
      exact ⟨fun _ h => (nomatch h), fun t ht => ⟨rfl, List.mem_singleton.mp ht ▸ hitem⟩⟩
    | _ => cases hr
  · obtain ⟨_, _, _, _, rfl⟩ := of_limit_found hr
    exact ⟨fun _ h => (nomatch h), fun _ h => (nomatch h)⟩
  · obtain ⟨_, _, _, _, rfl⟩ := of_limit_found hr
    exact ⟨fun _ h => (nomatch h), fun _ h => (nomatch h)⟩
  all_goals cases hr

/-- What a movable sequence asks of a list in a document, if for its items it does not matter which
references were met before. -/
theorem accepts_sequence {root : Schema} {n : Nat} {entries : Entries} (h : Movable entries)
    (met : List String) {xs : List Json}
    (hmet : ∀ s, ItemSchema entries s → ∀ x ∈ xs, ∀ met,
      acceptsWithin root (n + 1) ⟨s, met⟩ x = within root n s x) :
    acceptsWithin root (n + 2) ⟨.obj entries, met⟩ (.arr xs) = true ↔
      Fits (within root n) (positional entries) ((entries.lookup "items").getD any)
        (limit? entries "minItems") (limit? entries "maxItems") xs := by
  have hall : acceptsWithin root (n + 2) ⟨.obj entries, met⟩ (.arr xs) =
      (Keyword.ofEntries entries).all fun k => k.meets (within root n) (.arr xs) := by
    refine all_places fun here k hk => ?_
    obtain ⟨hr, hparts⟩ := parts_of_movable h (Spot.keyword_of_place hk)
    refine accepts_asked (fun s hs x hx => ?_) fun r h => hr r (by rw [h]; rfl)
    have hpart := hparts s.schema (parts_map Spot.schema k ▸ List.mem_map_of_mem hs)
    rw [← asked_map Spot.schema, asked, hpart.1] at hx
    exact hmet s.schema hpart.2 x hx s.met
  rw [hall]
  exact meets_sequence (literal_within root n) h xs

theorem budget_eq (s : Schema) (v : Json) : ∃ n, budget s v = n + 2 := by
  have hb := s.depth_lt_nodes
  have hm : s.nodes * 1 ≤ s.nodes * (v.depth + 2) := Nat.mul_le_mul_left _ (by omega)
  exact ⟨s.nodes * (v.depth + 2) - 1, by unfold budget; omega⟩

theorem budget_item {s : Schema} {xs : List Json} {n : Nat} (hn : budget s (.arr xs) = n + 2)
    {x : Json} (hx : x ∈ xs) : s.nodes * (x.depth + 1) ≤ n := by
  have hd : x.depth < Json.depth (.arr xs) := Json.depth_of_item hx
  have hb := s.depth_lt_nodes
  have hm : s.nodes * (x.depth + 1 + 2) ≤ s.nodes * (Json.depth (.arr xs) + 2) :=
    Nat.mul_le_mul_left _ (by omega)
  rw [Nat.mul_add] at hm
  unfold budget at hn
  omega

/-- What a movable sequence accepts in a document is what its items accept there. -/
theorem accepts_in_sequence {root : Schema} {entries : Entries} (h : Movable entries)
    (hs : ∀ s, ItemSchema entries s → Steady root s) (xs : List Json) :
    acceptsIn root (.obj entries) (.arr xs) = true ↔
      Fits (acceptsIn root) (positional entries) ((entries.lookup "items").getD any)
        (limit? entries "minItems") (limit? entries "maxItems") xs := by
  obtain ⟨n, hn⟩ := budget_eq root (.arr xs)
  have hitem (s : Schema) (hi : ItemSchema entries s) (x : Json) (hx : x ∈ xs)
      (met : List String) : acceptsWithin root (n + 1) ⟨s, met⟩ x = acceptsIn root s x :=
    hs s hi x n met (budget_item hn hx)
  rw [acceptsIn, hn, accepts_sequence h [] fun s hi x hx met =>
    (hitem s hi x hx met).trans (hitem s hi x hx []).symm]
  exact fits_congr fun s hi x hx => hitem s hi x hx []

section Bounded

variable {elements : List Schema} {others : Schema} {least : Nat} {most : Option Nat}

theorem bounded_array_movable (elements : List Schema) {others : Schema} (least : Nat)
    (most : Option Nat) (hl : ∀ schemas, others ≠ .arr schemas) :
    ∃ entries, boundedArray elements others least most = .obj entries ∧ Movable entries ∧
      positional entries = elements ∧ (entries.lookup "items").getD any = others ∧
      limit? entries "minItems" = some least ∧ limit? entries "maxItems" = most := by
  have hi (schemas : List Json) : some others ≠ some (.arr schemas) := fun h =>
    hl schemas (Option.some.inj h)
  cases most <;> cases elements <;>
    exact ⟨_, rfl, ⟨by simp, by simp [movable], rfl, hi⟩, rfl, rfl, rfl, rfl⟩

/-- What an array with bounds accepts. -/
theorem accepts_bounded_array (hl : ∀ schemas, others ≠ .arr schemas)
    (hs : ∀ s, s ∈ elements ∨ s = others → Steady (boundedArray elements others least most) s)
    (xs : List Json) : accepts (boundedArray elements others least most) (.arr xs) = true ↔
      Fits (acceptsIn (boundedArray elements others least most)) elements others (some least)
        most xs := by
  obtain ⟨entries, he, hm, rfl, rfl, hmin, hmax⟩ := bounded_array_movable elements least most hl
  rw [he] at hs ⊢
  rw [← hmin, ← hmax]
  exact accepts_in_sequence hm hs xs

theorem nodup_bounded_array : (keys (boundedArray elements others least most)).Nodup := by
  cases most <;> cases elements <;> simp [boundedArray, keys]

theorem bounded_meets {k : Keyword Schema} {key : String} {value v : Json}
    (h : accepts (boundedArray elements others least most) v = true)
    (hm : ∃ entries, boundedArray elements others least most = .obj entries ∧
      (key, value) ∈ entries ∧ Keyword.read entries key value = .ok (some k))
    (hr : ∀ r, k ≠ .reference r) (hp : ∀ s ∈ k.parts, ∃ b, s = .bool b) :
    k.meets accepts v = true := by
  obtain ⟨entries, he, hmem, hread⟩ := hm
  obtain ⟨n, hn⟩ := budget_eq (.obj entries) v
  rw [he, accepts, hn] at h
  exact meets_of_accepts h (mem_of_entries.mpr ⟨key, value, hmem, hread⟩) hr hp

theorem least_of_accepts {xs : List Json}
    (h : accepts (boundedArray elements others least most) (.arr xs) = true) :
    least ≤ xs.length := by
  have hm : (Keyword.minItems least).meets accepts (.arr xs) = true :=
    bounded_meets h ⟨_, rfl, (by simp : ("minItems", Json.natural least) ∈ _), rfl⟩
      (fun _ he => by cases he) (fun _ hs => by cases hs)
  exact of_decide_eq_true hm

theorem most_of_closed {xs : List Json}
    (h : accepts (boundedArray elements (.bool false) least most) (.arr xs) = true) :
    xs.length ≤ elements.length := by
  have hm : (Keyword.items elements.length (.bool false)).meets accepts (.arr xs) = true := by
    refine bounded_meets h ⟨_, rfl, List.mem_cons_self, ?_⟩ (fun _ he => by cases he)
      (fun s hs => ⟨false, List.mem_singleton.mp hs⟩)
    cases most <;> cases elements <;> rfl
  have hall : (xs.drop elements.length).all (accepts (.bool false)) = true := hm
  refine List.drop_eq_nil_iff.mp (List.eq_nil_iff_forall_not_mem.mpr fun x hx => ?_)
  cases List.all_eq_true.mp hall x hx

theorem places_bounded_array {s : Schema} (hs : s ∈ elements ∨ s = others) :
    s ∈ Json.places (boundedArray elements others least most) := by
  rcases hs with hs | rfl
  · have hne : elements.isEmpty = false := by
      cases elements with
      | nil => cases hs
      | cons e rest => rfl
    exact Json.places_of_entry
      (by simp [hne] : ("prefixItems", Json.arr elements) ∈ _)
      (Json.places_of_item hs s.self_mem_places)
  · exact Json.places_of_entry (by simp : ("items", s) ∈ _) s.self_mem_places

theorem elements_bounded_array :
    elements? (boundedArray elements others least most) = some elements := by
  cases most <;> cases elements <;> rfl

end Bounded

def titled (name : String) (s : Schema) : Schema := element s [("title", .str name)]

theorem titled_eq (name : String) (s : Schema) :
    titled name s = .obj [("allOf", .arr [s]), ("title", .str name)] := rfl

theorem accepts_within_titled (root : Schema) (n : Nat) (name : String) (s : Schema)
    (met : List String) (v : Json) :
    acceptsWithin root (n + 1) ⟨titled name s, met⟩ v = acceptsWithin root n ⟨s, met⟩ v := by
  have hk : Keyword.ofEntries [("allOf", .arr [s]), ("title", .str name)] = [.allOf [s]] := rfl
  have hp : Spot.places root met [.allOf [s]] = [(met, .allOf [⟨s, met⟩])] := rfl
  rw [titled_eq, acceptsWithin]
  dsimp only
  rw [hk, hp]
  simp [Keyword.accepts]

theorem accepts_within_titled_settled {root s : Schema} (h : Settled root s)
    (hs : s ∈ Json.places root) {n : Nat} {v : Json} (hn : root.nodes * (v.depth + 1) ≤ n)
    (name : String) (met : List String) :
    acceptsWithin root (n + 1) ⟨titled name s, met⟩ v = acceptsIn root s v :=
  (accepts_within_titled root n name s met v).trans (h.accepts_within hs hn met)

theorem accepts_in_titled {root s : Schema} (h : Settled root s) (hs : s ∈ Json.places root)
    (name : String) (v : Json) : acceptsIn root (titled name s) v = acceptsIn root s v :=
  accepts_within_titled_settled h hs
    (Nat.mul_le_mul_left root.nodes (by omega : v.depth + 1 ≤ v.depth + 2)) name []

theorem steady_titled {root s : Schema} (h : Settled root s) (hs : s ∈ Json.places root)
    (name : String) : Steady root (titled name s) := fun v _ met hn =>
  (accepts_within_titled_settled h hs hn name met).trans (accepts_in_titled h hs name v).symm

theorem keyword_obj (entries : Entries) (key : String) :
    keyword? (.obj entries) key = entries.lookup key := rfl

theorem natural_of_count_of {t : Schema} {key : String} {count : Option Nat}
    (h : countOf t key = .ok count) : t.keyword? key = count.map .natural := by
  unfold countOf at h
  split at h
  · rename_i hk
    cases h
    exact hk
  · rename_i n hk
    split at h
    · rename_i m hm
      cases h
      rw [hk]
      cases n with
      | int i =>
        simp only [Number.toCount?] at hm
        split at hm
        · rename_i hi
          cases hm
          have hnat : ((i.toNat : Nat) : Int) = i := Int.toNat_of_nonneg hi.1
          simp only [Option.map_some, Json.natural, hnat]
        · cases hm
      | float x => cases hm
    · cases h
  · cases h

theorem limit_of_count_of {entries : Entries} {key : String} {count : Option Nat}
    (h : countOf (.obj entries) key = .ok count) : limit? entries key = count := by
  have hk := natural_of_count_of h
  rw [keyword_obj] at hk
  unfold limit?
  rw [hk]
  cases count <;> rfl

theorem movable_of_immovable {entries : Entries} (h : immovable? (.obj entries) = none)
    {key : String} (hk : key ∈ entries.map (·.1)) : key ∈ movable := by
  have hf := List.find?_eq_none.mp h key hk
  simpa using hf

theorem elements_ok {s : Schema} {elements : List Schema} (h : elements? s = some elements) :
    s.isSequence = true ∧ (s.keyword? "prefixItems" = none ∧ elements = [] ∨
      s.keyword? "prefixItems" = some (.arr elements)) := by
  unfold elements? at h
  split at h
  · rename_i hsequence
    refine ⟨hsequence, ?_⟩
    split at h
    · rename_i hp
      exact .inl ⟨hp, (Option.some.inj h).symm⟩
    · rename_i hp
      exact .inr (Option.some.inj h ▸ hp)
    · cases h
  · cases h

theorem sequence_of_elements {s : Schema} {elements : List Schema}
    (h : elements? s = some elements) :
    ∃ entries, s = .obj entries ∧ entries.lookup "type" = some (.str "array") ∧
      positional entries = elements := by
  obtain ⟨ht, hp⟩ := elements_ok h
  cases s with
  | obj entries =>
    unfold isSequence at ht
    rw [keyword_obj] at ht hp
    refine ⟨entries, rfl, ?_, ?_⟩
    · split at ht
      · rename_i hl
        rw [hl, beq_iff_eq.mp ht]
      · cases ht
    · unfold positional
      rcases hp with ⟨hp, rfl⟩ | hp <;> rw [hp]
  | _ => cases ht

theorem elements_of_ok {s : Schema} {elements : List Schema} (h : elementsOf s = .ok elements) :
    elements? s = some elements := by
  unfold elementsOf at h
  split at h
  · rename_i he
    rw [he, Except.ok.inj h]
  · cases h

theorem bound_behind_ok {offset : Nat} {s : Schema} {key : String} {bound : Option Nat} :
    boundBehind offset s key = .ok bound ↔ ∃ count, countOf s key = .ok count ∧
      bound = count.map (offset + ·) ∧ ∀ n ∈ count, offset + n < 2 ^ 64 := by
  unfold boundBehind
  rw [bind_ok]
  refine exists_congr fun count => and_congr_right fun _ => ?_
  cases count with
  | none => simp [eq_comm]
  | some n =>
    by_cases hn : offset + n < 0x10000000000000000
    · simp [hn, eq_comm]
    · simp [hn]

theorem count_error {s : Schema} {key : String} {e : SchemaError} (h : countOf s key = .error e) :
    e = .malformed s (.badCount key) := by
  unfold countOf at h
  split at h
  · cases h
  · split at h <;> cases h
    rfl
  · cases h
    rfl

theorem count_lt {s : Schema} {key : String} {n : Nat} (h : countOf s key = .ok (some n)) :
    n < 2 ^ 64 := by
  unfold countOf at h
  split at h
  · cases h
  · rename_i number _
    split at h
    · rename_i m hm
      cases h
      cases number with
      | int i =>
        simp only [Number.toCount?] at hm
        split at hm
        · rename_i hi
          cases hm
          omega
        · cases hm
      | float x => cases hm
    · cases h
  · cases h

theorem bound_behind_error {offset : Nat} {s : Schema} {key : String} {e : SchemaError}
    (h : boundBehind offset s key = .error e) : countOf s key = .error e ∨
      e = .overflow ∧ ∃ n, countOf s key = .ok (some n) ∧ ¬offset + n < 2 ^ 64 := by
  rcases bind_error.mp h with h | ⟨count, hc, h⟩
  · exact .inl h
  · cases count with
    | none => cases h
    | some n =>
      dsimp only at h
      split at h
      · cases h
      · rename_i hn
        cases h
        exact .inr ⟨rfl, n, hc, hn⟩

theorem default_moved (offset : Nat) (count : Option Nat) :
    (count.map (offset + ·)).getD offset = offset + count.getD 0 := by
  cases count <;> rfl

theorem concat_ok {head tail s : Schema} (h : concat head tail = .ok s) :
    ∃ first second least most, elements? head = some first ∧ elements? tail = some second ∧
      immovable? tail = none ∧ countOf tail "minItems" = .ok least ∧
      countOf tail "maxItems" = .ok most ∧
      s = boundedArray (first ++ second) ((tail.keyword? "items").getD any)
        (first.length + least.getD 0) (most.map (first.length + ·)) := by
  obtain ⟨first, hf, h⟩ := bind_ok.mp h
  obtain ⟨second, hs, h⟩ := bind_ok.mp h
  split at h
  · cases h
  · rename_i hi
    obtain ⟨_, hlow, h⟩ := bind_ok.mp h
    obtain ⟨_, hhigh, h⟩ := bind_ok.mp h
    obtain ⟨least, hl, rfl, -⟩ := bound_behind_ok.mp hlow
    obtain ⟨most, hm, rfl, -⟩ := bound_behind_ok.mp hhigh
    cases h
    refine ⟨first, second, least, most, elements_of_ok hf, elements_of_ok hs, hi, hl, hm, ?_⟩
    rw [default_moved]

theorem reads_of_sequence {entries : Entries} {s : Schema} (hs : ItemSchema entries s) :
    Reads (.obj entries) s ∨ ∀ members, s ≠ .obj members := by
  refine or_iff_not_imp_right.mpr fun ho => ?_
  obtain ⟨members, rfl⟩ := not_forall_not.mp ho
  rcases hs with hs | hs
  · unfold positional at hs
    split at hs
    · rename_i items hl
      exact reads_obj.mpr ⟨.prefixItems items,
        mem_of_entries.mpr ⟨_, _, Entries.mem_of_lookup hl, rfl⟩, hs⟩
    · cases hs
  · cases hl : entries.lookup "items" with
    | none =>
      rw [hl] at hs
      cases hs
    | some x =>
      rw [hl] at hs
      obtain rfl : Json.obj members = x := hs
      exact reads_obj.mpr ⟨.items (prefixCount entries) (.obj members),
        mem_of_entries.mpr ⟨_, _, Entries.mem_of_lookup hl, rfl⟩, List.mem_singleton_self _⟩

theorem item_of_reads {entries : Entries} (h : Movable entries) {s : Schema}
    (hs : Reads (.obj entries) s) : ItemSchema entries s := by
  obtain ⟨k, hk, hs⟩ := reads_obj.mp hs
  exact ((parts_of_movable h hk).2 s hs).2

theorem steady_item {root s : Schema} {entries : Entries} (h : Settled root (.obj entries))
    (hs : ItemSchema entries s) (hr : Reads (.obj entries) s → s ∈ Json.places root) :
    Steady root s := by
  rcases reads_of_sequence hs with hread | ho
  · exact (h.reached (.part .start hread)).steady (hr hread)
  · exact steady_of_not_obj ho

/-- A sequence whose items refer to the same in a document as by themselves accepts the same lists
there. -/
theorem accepts_in_sequence_kept {root : Schema} {entries : Entries} (h : Movable entries)
    (hs : Settled root (.obj entries)) (hk : Kept (.obj entries) root (.obj entries))
    (hr : ∀ s, ItemSchema entries s → s ∈ Json.places root) (xs : List Json) :
    acceptsIn root (.obj entries) (.arr xs) = accepts (.obj entries) (.arr xs) := by
  have hself : Settled (.obj entries) (.obj entries) := hs.kept hk.symm
  have hdocument : accepts (.obj entries) (.arr xs) = true ↔ _ :=
    accepts_in_sequence h (fun s hi => steady_item hself hi places_of_reads) xs
  rw [Bool.eq_iff_iff, hdocument,
    accepts_in_sequence h fun s hi => steady_item hs hi fun _ => hr s hi]
  refine fits_congr fun s hi x _ => ?_
  rcases reads_of_sequence hi with hread | ho
  · have hreach : Reached (.obj entries) (.obj entries) s := .part .start hread
    exact (accepts_in_kept (hself.reached hreach).guarded (hk.reached hreach)
      (places_of_reads hread) (hr s hi) x).symm
  · cases s with
    | obj members => exact absurd rfl (ho members)
    | _ => rfl

theorem movable_of_concat {head s : Schema} {entries : Entries}
    (h : concat head (.obj entries) = .ok s) (hk : (keys (.obj entries)).Nodup)
    (hl : ∀ schemas, entries.lookup "items" ≠ some (.arr schemas)) : Movable entries := by
  obtain ⟨_, second, _, _, -, hs, hi, -, -, -⟩ := concat_ok h
  obtain ⟨_, heq, htype, -⟩ := sequence_of_elements hs
  cases heq
  exact ⟨hk, fun _ hkey => movable_of_immovable hi hkey, htype, hl⟩

theorem places_of_concat {head s : Schema} {entries : Entries}
    (h : concat head (.obj entries) = .ok s) {e : Schema} (he : ItemSchema entries e) :
    e ∈ Json.places s := by
  obtain ⟨_, second, _, _, -, hs, -, -, -, rfl⟩ := concat_ok h
  obtain ⟨_, heq, -, rfl⟩ := sequence_of_elements hs
  cases heq
  exact places_bounded_array (he.imp_left (List.mem_append_right _))

/-- A concatenation accepts the lists that begin as the head says and go on as the tail says, both
as they are read in it. -/
theorem accepts_concat {head tail s : Schema} {first : List Schema}
    (h : concat head tail = .ok s) (hf : elements? head = some first)
    (hfirst : ∀ e ∈ first, Steady s e) (ht : Settled s tail) (hk : tail.keys.Nodup)
    (hl : ∀ schemas, tail.keyword? "items" ≠ some (.arr schemas)) (xs : List Json) :
    s.accepts (.arr xs) = true ↔ first.length ≤ xs.length ∧
      (∀ p ∈ first.zip xs, acceptsIn s p.1 p.2 = true) ∧
        acceptsIn s tail (.arr (xs.drop first.length)) = true := by
  obtain ⟨_, second, least, most, hf', hs, -, hmin, hmax, hinput⟩ := concat_ok h
  obtain rfl := Option.some.inj (hf.symm.trans hf')
  obtain ⟨entries, rfl, -, rfl⟩ := sequence_of_elements hs
  have hm : Movable entries := movable_of_concat h hk hl
  rw [keyword_obj] at hinput
  have htail (e : Schema) (he : ItemSchema entries e) : Steady s e :=
    steady_item ht he fun _ => places_of_concat h he
  rw [accepts_in_sequence hm htail, limit_of_count_of hmin, limit_of_count_of hmax]
  subst hinput
  rw [accepts_bounded_array hm.others, fits_append, fits_least]
  rintro e (he | he)
  · exact (List.mem_append.mp he).elim (hfirst e) fun he => htail e (.inl he)
  · exact htail e (.inr he)

theorem items_of_check {entries : Entries} (h : check (.obj entries) = .ok ())
    {s : Schema} (hs : ("items", s) ∈ entries) (schemas : List Schema) : s ≠ .arr schemas :=
  not_list_of_shape (shape_faults_obj.mp ((check_iff _).mp h).shapes _ hs .schema rfl) schemas

theorem items_of_concat {head tail s : Schema} (h : concat head tail = .ok s)
    (hc : s.check = .ok ()) (schemas : List Schema) :
    tail.keyword? "items" ≠ some (.arr schemas) := by
  intro hi
  obtain ⟨first, second, least, most, -, -, -, -, -, rfl⟩ := concat_ok h
  rw [hi] at hc
  exact items_of_check hc (by simp) schemas rfl

end CallContract.Schema
