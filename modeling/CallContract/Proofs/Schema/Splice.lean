import CallContract.Proofs.Schema.Embedded

/-!
# What splicing keeps

Of the head, splicing reads the elements alone; of the tail, everything that it
does not refuse. So the result accepts the lists whose first items are accepted
by the elements of the head, one each, and whose other items the tail accepts.
What else a head asks of a list is lost, and a tuple asks nothing else. A schema
with no other keywords than those that can be moved, and with integers for its
bounds, is not refused.
-/

set_option autoImplicit false

namespace CallContract.Schema

open Keyword

variable {entries : Entries} {s root head tail r : Schema}

theorem literal_accepts : Literal accepts := by
  refine ⟨fun _ _ => rfl, fun s x hb ho => ?_⟩
  cases s with
  | bool b => exact absurd rfl (hb b)
  | obj entries => exact absurd rfl (ho entries)
  | _ => rfl

theorem depth_of_asked {k : Keyword Schema} {v x : Json} (h : x ∈ k.asked v) :
    x.depth ≤ v.depth := by
  unfold Keyword.asked at h
  split at h
  · rw [List.mem_singleton.mp h]
  · exact Nat.le_of_lt (Json.depth_of_inside h)

theorem accepts_keywords (hs : selfContained (.obj entries) = true) (v : Json) :
    accepts (.obj entries) v = (Keyword.ofEntries entries).all fun k => k.meets accepts v := by
  have hparts : ∀ k ∈ Keyword.ofEntries entries, ∀ t ∈ k.parts, ∀ x ∈ k.asked v, ∀ met,
      acceptsWithin (.obj entries) (Json.nodes (.obj entries) * (v.depth + 2)) ⟨t, met⟩ x =
        accepts t x := by
    intro k hk t ht x hx met
    have hplace : t ∈ Json.places (.obj entries) := places_of_reads (reads_obj.mpr ⟨k, hk, ht⟩)
    have hf : Faithful (.obj entries) t :=
      faithful_of_self_contained (self_contained_part hs (part_of_of_keyword hk ht))
    have hx := depth_of_asked hx
    rw [hf.settled.accepts_within hplace (Nat.mul_le_mul_left _ (by omega))]
    exact (accepts_in_kept hf.guarded hf.kept t.self_mem_places hplace x).symm
  have hself : Reached (.obj entries) (.obj entries) (.obj entries) := .start
  have hown (r : String) : .reference r ∉ ownUses (.obj entries) :=
    (self_contained_reached hs hself).2 r
  calc accepts (.obj entries) v
    _ = (Keyword.ofEntries entries).all (asks (fun _ => none) accepts v) :=
      accepts_asks hparts fun r hr => absurd hr (hown r)
    _ = (Keyword.ofEntries entries).all fun k => k.meets accepts v :=
      Entries.all_congr_mem fun k hk => asks_meets (no_reference hs hk)

theorem accepts_movable (h : Movable entries) (hs : selfContained (.obj entries) = true)
    (xs : List Json) : accepts (.obj entries) (.arr xs) = true ↔
      Fits accepts (positional entries) ((entries.lookup "items").getD any)
        (limit? entries "minItems") (limit? entries "maxItems") xs := by
  rw [accepts_keywords hs]
  exact meets_sequence literal_accepts h xs

theorem list_of_accepts (hs : selfContained (.obj entries) = true)
    (ht : entries.lookup "type" = some (.str "array")) {v : Json}
    (h : accepts (.obj entries) v = true) : ∃ xs, v = .arr xs := by
  rw [accepts_keywords hs, List.all_eq_true] at h
  have hkind := h (.type .array) (mem_of_entries.mpr ⟨_, _, Entries.mem_of_lookup ht, rfl⟩)
  cases v with
  | arr xs => exact ⟨xs, rfl⟩
  | _ => cases hkind

theorem items_self_contained_iff {items : List Schema} :
    itemsSelfContained items = true ↔ ∀ s ∈ items, selfContained s = true := by
  induction items with
  | nil => simp [itemsSelfContained]
  | cons s rest ih => rw [itemsSelfContained, Bool.and_eq_true, ih, List.forall_mem_cons]

theorem self_contained_bounded_array {elements : List Schema} {others : Schema} {least : Nat}
    {most : Option Nat} : selfContained (boundedArray elements others least most) = true ↔
      ∀ s, s ∈ elements ∨ s = others → selfContained s = true := by
  have hshapes : shapeOf? "items" = some .schema ∧ shapeOf? "maxItems" = some .size ∧
      shapeOf? "minItems" = some .size ∧ shapeOf? "prefixItems" = some .schemas ∧
      shapeOf? "type" = some .kinds := ⟨rfl, rfl, rfl, rfl, rfl⟩
  have hparts : (∀ s, s ∈ elements ∨ s = others → selfContained s = true) ↔
      selfContained others = true ∧ itemsSelfContained elements = true := by
    simp only [or_imp, forall_and, forall_eq, items_self_contained_iff, and_comm]
  rw [hparts]
  cases most <;> cases elements <;>
    simp [boundedArray, selfContained, entriesSelfContained, itemsSelfContained, hshapes, referring]

theorem self_contained_of_item (h : selfContained (.obj entries) = true)
    (hs : ItemSchema entries s) : selfContained s = true := by
  have hentry {key : String} {x : Json} (hx : entries.lookup key = some x)
      (hkey : shapeOf? key = some .schema ∨ shapeOf? key = some .schemas) :
      selfContained x = true :=
    (self_contained_entry (by rwa [selfContained] at h) (Entries.mem_of_lookup hx)).2.1 hkey
  rcases hs with hs | rfl
  · unfold positional at hs
    split at hs
    · rename_i items hx
      exact self_contained_item (hentry hx (.inr rfl)) hs
    · cases hs
  · cases hx : entries.lookup "items" with
    | none => rfl
    | some x => exact hentry hx (.inl rfl)

def FilledBy (s : Schema) (xs : List Json) : Prop :=
  ∃ elements, s.elements? = some elements ∧ xs.length = elements.length ∧
    ∀ p ∈ elements.zip xs, accepts p.1 p.2 = true

/-- A list splits, after the length of the head, into what the head and the tail accept. -/
def Splits (head tail : Schema) (v : Json) : Prop :=
  ∃ xs ys, v = .arr (xs ++ ys) ∧ head.tupleLength? = some xs.length ∧
    accepts head (.arr xs) = true ∧ accepts tail (.arr ys) = true

theorem filled_by_of_accepts {xs : List Json} (hs : selfContained s = true)
    (hl : s.tupleLength? = some xs.length) (h : accepts s (.arr xs) = true) : s.FilledBy xs := by
  obtain ⟨elements, he, hlength⟩ := Option.map_eq_some_iff.mp hl
  obtain ⟨entries, rfl, -, rfl⟩ := sequence_of_elements he
  refine ⟨_, he, hlength.symm, ?_⟩
  rw [accepts_keywords hs, List.all_eq_true] at h
  rw [← meets_prefix entries xs]
  intro value hv k hk
  exact h k (mem_of_entries.mpr ⟨_, value, Entries.mem_of_lookup hv, hk⟩)

theorem accepts_bounded {elements : List Schema} {others : Schema} {least : Nat}
    {most : Option Nat} (hl : ∀ schemas, others ≠ .arr schemas)
    (hs : selfContained (boundedArray elements others least most) = true) (v : Json) :
    accepts (boundedArray elements others least most) v = true ↔
      ∃ xs, v = .arr xs ∧ Fits accepts elements others (some least) most xs := by
  obtain ⟨entries, he, hm, rfl, rfl, hmin, hmax⟩ := bounded_array_movable elements least most hl
  rw [he] at hs ⊢
  rw [← hmin, ← hmax]
  constructor
  · intro ha
    obtain ⟨xs, rfl⟩ := list_of_accepts hs hm.isSequence ha
    exact ⟨xs, rfl, (accepts_movable hm hs xs).mp ha⟩
  · rintro ⟨xs, rfl, hf⟩
    exact (accepts_movable hm hs xs).mpr hf

theorem accepts_of_filled_by {parts : List (Schema × Entries)} {xs : List Json}
    (hs : selfContained (tuple parts) = true) (h : (tuple parts).FilledBy xs) :
    accepts (tuple parts) (.arr xs) = true := by
  obtain ⟨elements, he, hlength, hall⟩ := h
  unfold tuple at he hs ⊢
  rw [elements_bounded_array, Option.some.injEq] at he
  subst he
  have hitems : ∀ schemas, Json.bool false ≠ .arr schemas := by simp
  refine (accepts_bounded hitems hs _).mpr ⟨xs, rfl, fun n hn => ?_, by simp, hall, fun x hx => ?_⟩
  · rw [← Option.some.inj hn, hlength, List.length_map]
  · rw [List.drop_eq_nil_of_le hlength.le] at hx
    cases hx

/-- Bounds and items behind a head ask of a list that splits after it what the two ask of its
parts. -/
theorem fits_behind {part : Schema → Json → Bool} {A B : List Schema} {others : Schema}
    {least : Nat} {most : Option Nat} {xs ys : List Json} (h : A.length = xs.length) :
    Fits part (A ++ B) others (some (A.length + least)) (most.map (A.length + ·)) (xs ++ ys) ↔
      (∀ p ∈ A.zip xs, part p.1 p.2 = true) ∧ Fits part B others (some least) most ys := by
  have hzip : A.zip (xs ++ ys) = A.zip xs := calc
    A.zip (xs ++ ys) = (A ++ []).zip (xs ++ ys) := by rw [List.append_nil]
    _ = A.zip xs ++ [].zip ys := List.zip_append h
    _ = A.zip xs := by rw [List.zip_nil_left, List.append_nil]
  rw [fits_append, hzip, List.drop_left' h.symm]
  exact and_iff_right (by rw [List.length_append]; omega)

/-- Splicing keeps the elements of the head and all that the tail asks. -/
theorem accepts_spliced (h : concat head tail = .ok r) (hh : selfContained head = true)
    (ht : selfContained tail = true) (hc : tail.check = .ok ()) (hn : tail.keys.Nodup) (v : Json) :
    accepts r v = true ↔
      ∃ xs ys, v = .arr (xs ++ ys) ∧ head.FilledBy xs ∧ accepts tail (.arr ys) = true := by
  obtain ⟨first, second, least, most, hf, hs, -, hmin, hmax, rfl⟩ := concat_ok h
  obtain ⟨entries, rfl, -, rfl⟩ := sequence_of_elements hs
  obtain ⟨headEntries, rfl, -, rfl⟩ := sequence_of_elements hf
  have hm : Movable entries := movable_of_concat h hn fun schemas hi =>
    items_of_check hc (Entries.mem_of_lookup hi) schemas rfl
  have hparts (s : Schema) (hs : s ∈ positional headEntries ++ positional entries ∨
      s = (entries.lookup "items").getD any) : selfContained s = true := by
    rcases hs with hs | hs
    · exact (List.mem_append.mp hs).elim (fun hs => self_contained_of_item hh (.inl hs))
        fun hs => self_contained_of_item ht (.inl hs)
    · exact self_contained_of_item ht (.inr hs)
  rw [keyword_obj, accepts_bounded hm.others (self_contained_bounded_array.mpr hparts)]
  -- the list is taken apart behind as many items as the head has elements
  constructor
  · rintro ⟨xs, rfl, hfits⟩
    have hlength : (xs.take (positional headEntries).length).length =
        (positional headEntries).length :=
      List.length_take_of_le ((fits_append ..).mp hfits).1
    rw [← List.take_append_drop (positional headEntries).length xs, fits_behind hlength.symm,
      fits_least, ← limit_of_count_of hmin, ← limit_of_count_of hmax,
      ← accepts_movable hm ht] at hfits
    exact ⟨_, _, by rw [List.take_append_drop], ⟨_, hf, hlength, hfits.1⟩, hfits.2⟩
  · rintro ⟨xs, ys, rfl, ⟨elements, he, hlength, hall⟩, htail⟩
    cases hf.symm.trans he
    rw [accepts_movable hm ht, limit_of_count_of hmin, limit_of_count_of hmax,
      ← fits_least] at htail
    exact ⟨_, rfl, (fits_behind hlength.symm).mpr ⟨hall, htail⟩⟩

theorem tuple_length_of_filled_by {xs : List Json} (h : s.FilledBy xs) :
    s.tupleLength? = some xs.length := by
  obtain ⟨elements, he, hlength, -⟩ := h
  rw [tupleLength?, he, hlength]
  rfl

/-- Where the elements of the head and the tail decide, the head itself does if it asks no more than
its elements do, or if nothing is accepted. -/
theorem splits_iff_filled (hr : ∀ v, accepts r v = true ↔
      ∃ xs ys, v = .arr (xs ++ ys) ∧ head.FilledBy xs ∧ accepts tail (.arr ys) = true)
    (hsplits : ∀ v, Splits head tail v → accepts r v = true) :
    (∀ v, accepts r v = true ↔ Splits head tail v) ↔
      (∀ xs, head.FilledBy xs → accepts head (.arr xs) = true) ∨
        ∀ ys, accepts tail (.arr ys) = false := by
  constructor
  · intro hall
    by_contra! hnot
    obtain ⟨⟨xs, hfilled, hhead⟩, ys, htail⟩ := hnot
    rw [Bool.ne_false_iff] at htail
    -- the list splits in one place only, as the head has one length
    obtain ⟨xs', ys', heq, hlength, hhead', -⟩ :=
      (hall _).mp ((hr (.arr (xs ++ ys))).mpr ⟨xs, ys, rfl, hfilled, htail⟩)
    rw [tuple_length_of_filled_by hfilled, Option.some.injEq] at hlength
    obtain ⟨rfl, -⟩ := List.append_inj (Json.arr.inj heq) hlength
    exact hhead hhead'
  · rintro hall v
    refine ⟨fun ha => ?_, hsplits v⟩
    obtain ⟨xs, ys, rfl, hfilled, htail⟩ := (hr v).mp ha
    rcases hall with hhead | hnone
    · exact ⟨xs, ys, rfl, tuple_length_of_filled_by hfilled, hhead xs hfilled, htail⟩
    · rw [hnone] at htail
      cases htail

/-- Splicing keeps all that the tail asks, and of the head its elements. What the head and the tail
accept one behind the other is accepted; and nothing else is if the head asks no more than its
elements do. No tuple asks more. -/
theorem concat_accepts (h : concat head tail = .ok r) (hh : selfContained head = true)
    (ht : selfContained tail = true) (hc : tail.check = .ok ()) (hn : tail.keys.Nodup) :
    (∀ v, accepts r v = true ↔
      ∃ xs ys, v = .arr (xs ++ ys) ∧ head.FilledBy xs ∧ accepts tail (.arr ys) = true) ∧
    (∀ v, Splits head tail v → accepts r v = true) ∧
    ((∀ v, accepts r v = true ↔ Splits head tail v) ↔
      (∀ xs, head.FilledBy xs → accepts head (.arr xs) = true) ∨
        ∀ ys, accepts tail (.arr ys) = false) ∧
    ((∃ parts, head = tuple parts) → ∀ v, accepts r v = true ↔ Splits head tail v) := by
  have hspliced := accepts_spliced h hh ht hc hn
  have hsplits (v : Json) (hv : Splits head tail v) : accepts r v = true := by
    obtain ⟨xs, ys, rfl, hlength, hhead, htail⟩ := hv
    exact (hspliced _).mpr ⟨xs, ys, rfl, filled_by_of_accepts hh hlength hhead, htail⟩
  have hlaw := splits_iff_filled hspliced hsplits
  refine ⟨hspliced, hsplits, hlaw, ?_⟩
  rintro ⟨parts, rfl⟩
  exact hlaw.mpr (.inl fun xs => accepts_of_filled_by hh)

def labels : Schema :=
  .obj [("items", .obj [("type", .str "string")]), ("minItems", .natural 1),
    ("type", .str "array")]

def labelsText : String :=
  "\x7b\"type\": \"array\", \"minItems\": 1, \"items\": \x7b\"type\": \"string\"\x7d\x7d"

theorem concat_accepts_labels :
    let head := tuple [(.obj [("type", .str "integer")], [("title", .str "n")])]
    ∃ tail r, Json.parse labelsText = .ok tail ∧ concat head tail = .ok r ∧
      ∀ v, accepts r v = true ↔ Splits head tail v := by
  intro head
  have hparse : Json.parse labelsText = .ok labels := by rfl
  have hr : concat head labels = .ok _ := rfl
  obtain ⟨-, -, -, hlaw⟩ :=
    concat_accepts hr (by decide) (by decide) (by rfl) (nodup_of_parse hparse)
  exact ⟨labels, _, hparse, hr, hlaw ⟨_, rfl⟩⟩

/-- The bound of a head that is itself spliced is lost: an empty list does not split into one of one
item at least and another, but is accepted. -/
theorem bound_of_head_lost :
    let head := .obj [("items", any), ("minItems", .natural 1), ("type", .str "array")]
    let tail := .obj [("type", .str "array")]
    concat (tuple []) head = .ok head ∧ head.check = .ok () ∧ tail.check = .ok () ∧
      selfContained head = true ∧ selfContained tail = true ∧
      ∃ r, concat head tail = .ok r ∧ accepts r (.arr []) = true ∧ ¬Splits head tail (.arr []) := by
  refine ⟨by rfl, by rfl, by rfl, by decide, by decide, _, rfl, by decide, ?_⟩
  rintro ⟨xs, ys, hnil, -, hhead, -⟩
  obtain ⟨rfl, -⟩ := List.append_eq_nil_iff.mp (Json.arr.inj hnil).symm
  exact absurd hhead (by decide)

theorem elements_tuple (parts : List (Schema × Entries)) :
    (tuple parts).elements? = some (parts.map fun p => element p.1 p.2) :=
  elements_bounded_array

theorem elements_of_tuple (parts : List (Schema × Entries)) :
    elementsOf (tuple parts) = .ok (parts.map fun p => element p.1 p.2) := by
  rw [elementsOf, elements_tuple]

/-- The sums of counts that come up when a document is spliced behind so many elements are in the
range of counts. A sum comes up only if nothing that is read before it is refused. -/
structure CountsFit (n : Nat) (t : Schema) : Prop where
  elements : n < 2 ^ 64
  least : (∃ elements, t.elements? = some elements) → immovable? t = none →
    ∀ count, countOf t "minItems" = .ok (some count) → n + count < 2 ^ 64
  most : (∃ elements, t.elements? = some elements) → immovable? t = none →
    (∃ least, countOf t "minItems" = .ok least) →
    ∀ count, countOf t "maxItems" = .ok (some count) → n + count < 2 ^ 64

theorem CountsFit.mono {n n' : Nat} (hfit : CountsFit n s) (hn : n' ≤ n) : CountsFit n' s := by
  refine ⟨by have := hfit.elements; omega, fun hs hi count hc => ?_, fun hs hi hl count hc => ?_⟩
  · have := hfit.least hs hi count hc
    omega
  · have := hfit.most hs hi hl count hc
    omega

theorem bound_behind_fit {offset : Nat} {key : String}
    (h : ∀ n, countOf s key = .ok (some n) → offset + n < 2 ^ 64) :
    boundBehind offset s key = (countOf s key).map (Option.map (offset + ·)) := by
  cases hc : countOf s key with
  | error e => exact bind_error.mpr (.inl hc)
  | ok count =>
    exact bound_behind_ok.mpr ⟨count, hc, rfl, fun n hn => h n (hc.trans (congrArg _ hn))⟩

/-- As long as sums are counts, a tail is refused behind one tuple if it is behind another. -/
theorem concat_tuple_error {e : SchemaError} {parts more : List (Schema × Entries)}
    (hp : CountsFit parts.length tail) (hm : CountsFit more.length tail) :
    concat (tuple parts) tail = .error e ↔ concat (tuple more) tail = .error e := by
  simp only [concat, elements_of_tuple, List.length_map, bind, Except.bind]
  -- both sides read the tail in one order, and fail for what is read of it
  cases hs : elementsOf tail with
  | error cause => rfl
  | ok second =>
    have hsequence : ∃ elements, tail.elements? = some elements := ⟨second, elements_of_ok hs⟩
    cases hi : immovable? tail with
    | some keyword => rfl
    | none =>
      rw [bound_behind_fit (hp.least hsequence hi), bound_behind_fit (hm.least hsequence hi)]
      cases hmin : countOf tail "minItems" with
      | error cause => rfl
      | ok least =>
        rw [bound_behind_fit (hp.most hsequence hi ⟨least, hmin⟩),
          bound_behind_fit (hm.most hsequence hi ⟨least, hmin⟩)]
        cases countOf tail "maxItems" with
        | error cause => rfl
        | ok most => simp [Except.map]

theorem counts_fit_zero (t : Schema) : CountsFit 0 t :=
  ⟨by omega, fun _ _ n hn => by have := count_lt hn; omega,
    fun _ _ _ n hn => by have := count_lt hn; omega⟩

theorem counts_fit_nil (t : Schema) : CountsFit ([] : List (Schema × Entries)).length t :=
  counts_fit_zero t

example : concat (tuple [(any, [])])
    (.obj [("maxItems", .natural 0xFFFFFFFFFFFFFFFF), ("type", .str "array")]) =
      .error .overflow := by rfl

theorem immovable_none (h : ∀ key ∈ tail.keys, key ∈ movable) : immovable? tail = none := by
  cases tail with
  | obj entries => exact List.find?_eq_none.mpr fun key hkey => by simpa using h key hkey
  | _ => rfl

theorem concat_eq {first second : List Schema} {least most : Option Nat}
    (hf : head.elements? = some first) (hs : tail.elements? = some second)
    (hi : immovable? tail = none) (hmin : countOf tail "minItems" = .ok least)
    (hmax : countOf tail "maxItems" = .ok most) (hfit : CountsFit first.length tail) :
    concat head tail = .ok (boundedArray (first ++ second) ((tail.keyword? "items").getD any)
      (first.length + least.getD 0) (most.map (first.length + ·))) := by
  have hlow := bound_behind_fit (hfit.least ⟨second, hs⟩ hi)
  have hhigh := bound_behind_fit (hfit.most ⟨second, hs⟩ hi ⟨least, hmin⟩)
  rw [hmin] at hlow
  rw [hmax] at hhigh
  simp only [concat, elementsOf, hf, hs, hi, hlow, hhigh, bind, Except.bind, Except.map,
    default_moved]

theorem concat_tuple_ok {elements : List Schema} {least most : Option Nat}
    (he : tail.elements? = some elements) (hk : ∀ key ∈ tail.keys, key ∈ movable)
    (hmin : countOf tail "minItems" = .ok least) (hmax : countOf tail "maxItems" = .ok most)
    {parts : List (Schema × Entries)} (hfit : CountsFit parts.length tail) :
    ∃ r, concat (tuple parts) tail = .ok r := by
  rw [← List.length_map] at hfit
  exact ⟨_, concat_eq (elements_tuple parts) he (immovable_none hk) hmin hmax hfit⟩

theorem count_of_number {key : String} {n : Number} {count : Nat}
    (h : s.keyword? key = some (.num n)) (hn : n.toCount? = some count) :
    countOf s key = .ok (some count) := by
  simp only [countOf, h, hn]

theorem to_count_natural {n : Nat} (h : n < 2 ^ 64) : (Number.int n).toCount? = some n := by
  have hi : (n : Int) < 0x10000000000000000 := by omega
  simp [Number.toCount?, hi]

theorem count_of_bounded_array (elements : List Schema) (others : Schema) {least : Nat}
    {most : Option Nat} (hleast : least < 2 ^ 64) (hmost : ∀ n ∈ most, n < 2 ^ 64) :
    countOf (boundedArray elements others least most) "minItems" = .ok (some least) ∧
      countOf (boundedArray elements others least most) "maxItems" = .ok most := by
  constructor
  · refine count_of_number ?_ (to_count_natural hleast)
    cases most <;> cases elements <;> rfl
  · cases most with
    | none => cases elements <;> rfl
    | some n =>
      refine count_of_number ?_ (to_count_natural (hmost n rfl))
      cases elements <;> rfl

theorem keys_bounded_array {elements : List Schema} {others : Schema} {least : Nat}
    {most : Option Nat} : ∀ key ∈ keys (boundedArray elements others least most),
      key ∈ movable := by
  cases most <;> cases elements <;> simp [boundedArray, keys, movable]

theorem counts_fit_bounded {elements : List Schema} {others : Schema} {least n : Nat}
    {most : Option Nat} (hleast : n + least < 2 ^ 64) (hmost : ∀ m ∈ most, n + m < 2 ^ 64) :
    CountsFit n (boundedArray elements others least most) := by
  obtain ⟨hmin, hmax⟩ := count_of_bounded_array elements others (by omega : least < 2 ^ 64)
    fun m hm => by have := hmost m hm; omega
  refine ⟨by omega, fun _ _ count hc => ?_, fun _ _ _ count hc => ?_⟩
  · rw [hmin] at hc
    cases hc
    exact hleast
  · rw [hmax] at hc
    exact hmost count (Except.ok.inj hc)

theorem concat_bounded_array {elements : List Schema} {others : Schema} {least : Nat}
    {most : Option Nat} {parts : List (Schema × Entries)} (hleast : parts.length + least < 2 ^ 64)
    (hmost : ∀ n ∈ most, parts.length + n < 2 ^ 64) :
    concat (tuple parts) (boundedArray elements others least most) =
      .ok (boundedArray ((parts.map fun p => element p.1 p.2) ++ elements) others
        (parts.length + least) (most.map (parts.length + ·))) := by
  have hitems : keyword? (boundedArray elements others least most) "items" = some others := rfl
  have hlength : (parts.map fun p => element p.1 p.2).length = parts.length := List.length_map _
  obtain ⟨hmin, hmax⟩ := count_of_bounded_array elements others (by omega : least < 2 ^ 64)
    fun n hn => by have := hmost n hn; omega
  rw [← hlength] at hleast hmost ⊢
  exact concat_eq (elements_tuple parts) elements_bounded_array (immovable_none keys_bounded_array)
    hmin hmax (counts_fit_bounded hleast hmost)

/-- A sequence that can be appended: a self-contained schema whose keywords can all be moved, with
bounds, if any, that are written as integers and not as decimal fractions. -/
structure Appendable (s : Schema) : Prop where
  check : s.check = .ok ()
  isSequence : s.isSequence = true
  selfContained : selfContained s = true
  nodup : s.keys.Nodup
  keys : ∀ key ∈ s.keys, key ∈ movable
  bounds : ∀ key ∈ ["minItems", "maxItems"], ∀ n, s.keyword? key = some (.num n) →
    ∃ i : Int, n = .int i ∧ i < 0x10000000000000000

theorem elements_of_check (hc : s.check = .ok ()) (hs : s.isSequence = true) :
    ∃ elements, s.elements? = some elements := by
  rw [elements?, if_pos hs]
  cases hp : s.keyword? "prefixItems" with
  | none => exact ⟨_, rfl⟩
  | some x =>
    cases s with
    | obj entries =>
      have hshape : faultsAs .schemas x = [] :=
        shape_faults_obj.mp ((check_iff _).mp hc).shapes _ (Entries.mem_of_lookup hp) .schemas rfl
      cases x with
      | arr items => exact ⟨_, rfl⟩
      | _ => cases hshape
    | _ => cases hp

theorem count_of_sized {key : String}
    (hf : ∀ x, s.keyword? key = some x → sizeFaults x = [])
    (hb : ∀ n, s.keyword? key = some (.num n) → ∃ i : Int, n = .int i ∧ i < 0x10000000000000000) :
    ∃ count, countOf s key = .ok count := by
  cases hx : s.keyword? key with
  | none =>
    rw [countOf, hx]
    exact ⟨_, rfl⟩
  | some x =>
    obtain ⟨n, -, rfl, -⟩ := limit_of_size (hf x hx)
    obtain ⟨i, rfl, hi⟩ := hb n hx
    have hnonneg : 0 ≤ i := by
      have hsize := (List.append_eq_nil_iff.mp (hf _ hx)).1
      simpa [Number.value] using hsize
    exact ⟨_, count_of_number hx (if_pos ⟨hnonneg, hi⟩)⟩

/-- A sequence that can be appended can be spliced behind any tuple, as far as counts reach. -/
theorem Appendable.concat_ok (h : tail.Appendable) {parts : List (Schema × Entries)}
    (hfit : CountsFit parts.length tail) : ∃ r, concat (tuple parts) tail = .ok r := by
  obtain ⟨elements, he⟩ := elements_of_check h.check h.isSequence
  obtain ⟨entries, rfl, -, -⟩ := sequence_of_elements he
  have hsize (key : String) (hkey : shapeOf? key = some .size) (x : Json)
      (hx : keyword? (.obj entries) key = some x) : sizeFaults x = [] :=
    shape_faults_obj.mp ((check_iff _).mp h.check).shapes _ (Entries.mem_of_lookup hx) .size hkey
  obtain ⟨least, hleast⟩ := count_of_sized (hsize _ rfl) (h.bounds "minItems" (by simp))
  obtain ⟨most, hmost⟩ := count_of_sized (hsize _ rfl) (h.bounds "maxItems" (by simp))
  exact concat_tuple_ok he h.keys hleast hmost hfit

theorem shape_faults_bare : shapeFaults (element s []) = [] ↔ shapeFaults s = [] := by
  have hshapes : shapeOf? "allOf" = some .schemas := rfl
  simp [element, Json.insertEntry, shape_faults_obj, hshapes, faultsAs, item_faults_nil, ifEmpty]

theorem sound_in_element {attributes : Entries}
    (ha : attributes = [] ∨ ∃ name, attributes = [("title", .str name)]) :
    SoundIn root (element s attributes) ↔ SoundIn root s := by
  rcases ha with rfl | ⟨name, rfl⟩
  · exact sound_in_of_reads shape_faults_bare rfl (reads_all_of rfl)
  · exact sound_in_titled name

/-- A sequence that can be appended can be spliced behind any tuple of schemas as long as the sums
of counts are counts, and the result is a schema if the schemas of the tuple refer to the same in it
as by themselves; so it is if they do not refer to anything. -/
theorem concat_succeeds {parts : List (Schema × Entries)}
    (hp : ∀ p ∈ parts, p.1.check = .ok () ∧ (p.2 = [] ∨ ∃ name, p.2 = [("title", .str name)]))
    (ht : tail.Appendable) (hfit : CountsFit parts.length tail) :
    ∃ r, concat (tuple parts) tail = .ok r ∧
      ((∀ p ∈ parts, Kept p.1 r p.1) → r.check = .ok ()) ∧
      ((∀ p ∈ parts, selfContained p.1 = true) → r.check = .ok ()) := by
  obtain ⟨r, hr⟩ := ht.concat_ok hfit
  have hcheck (hk : ∀ p ∈ parts, Kept p.1 r p.1) : r.check = .ok () := by
    refine check_of_tail hr elements_bounded_array (fun e he => ?_) ht.nodup
      (faithful_of_self_contained ht.selfContained).kept ht.check
    obtain ⟨p, hmem, rfl⟩ := List.mem_map.mp he
    obtain ⟨hsound, hattributes⟩ := hp p hmem
    exact (sound_in_element hattributes).mpr (sound_in_kept (hk p hmem) ((check_iff _).mp hsound))
  refine ⟨r, hr, hcheck, fun hs => hcheck fun p hmem => ?_⟩
  exact (faithful_of_self_contained (hs p hmem)).kept

theorem concat_succeeds_labels :
    ∃ r, concat (tuple [(.obj [("type", .str "integer")], [("title", .str "n")]), (any, [])])
      (.obj [("maxItems", .natural 3), ("minItems", .natural 1),
        ("prefixItems", .arr [.obj [("type", .str "string")]]), ("type", .str "array")]) = .ok r ∧
      r.check = .ok () := by
  have hparts : ∀ p ∈ [(Json.obj [("type", .str "integer")], [("title", Json.str "n")]), (any, [])],
      check p.1 = .ok () ∧ (p.2 = [] ∨ ∃ name, p.2 = [("title", .str name)]) := by
    exact List.forall_mem_cons.mpr ⟨⟨by rfl, .inr ⟨_, rfl⟩⟩,
      List.forall_mem_singleton.mpr ⟨by rfl, .inl rfl⟩⟩
  have hbounds (key : String) (hkey : key ∈ ["minItems", "maxItems"]) (n : Number) (hn : keyword?
      (.obj [("maxItems", .natural 3), ("minItems", .natural 1),
        ("prefixItems", .arr [.obj [("type", .str "string")]]), ("type", .str "array")]) key =
        some (.num n)) : ∃ i : Int, n = .int i ∧ i < 0x10000000000000000 := by
    simp only [List.mem_cons, List.not_mem_nil, or_false] at hkey
    rcases hkey with rfl | rfl
    · cases hn
      exact ⟨1, rfl, by decide⟩
    · cases hn
      exact ⟨3, rfl, by decide⟩
  obtain ⟨r, hr, -, hcheck⟩ := concat_succeeds hparts
    ⟨by rfl, by rfl, by decide, by decide, by decide, hbounds⟩
    ⟨by decide, fun _ _ _ h => by cases h; decide, fun _ _ _ _ h => by cases h; decide⟩
  exact ⟨r, hr, hcheck (by decide)⟩

/-- A schema that refers to a definition of its own is none in a tuple, where references are
followed from the root of the whole. Two or more items are also a schema if the bound is written
`2.0`; but then they are not spliced, though nothing else keeps them from it. -/
theorem reference_lost_and_bound_refused :
    let shared := .obj [("$defs", .obj [("a", .obj [("type", .str "integer")])]),
      ("$ref", .str "#/$defs/a")]
    let tail := .obj [("type", .str "array")]
    let two := .obj [("minItems", .num (.float (.ofInt 2))), ("type", .str "array")]
    (shared.check = .ok () ∧ tail.Appendable ∧
      ∃ r, concat (tuple [(shared, [("title", .str "x")])]) tail = .ok r ∧ r.check ≠ .ok ()) ∧
    two.check = .ok () ∧ two.isSequence = true ∧ selfContained two = true ∧
      (∀ key ∈ two.keys, key ∈ movable) ∧
      concat (tuple []) two = .error (.malformed two (.badCount "minItems")) := by
  refine ⟨⟨by decide +kernel, ⟨by rfl, by rfl, by decide, by decide, by decide, ?_⟩, _, rfl,
    by decide +kernel⟩, by rfl, by rfl, by decide, by decide, by rfl⟩
  intro key hkey n hn
  simp only [List.mem_cons, List.not_mem_nil, or_false] at hkey
  rcases hkey with rfl | rfl <;> cases hn

end CallContract.Schema
