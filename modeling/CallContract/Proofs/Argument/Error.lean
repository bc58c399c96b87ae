import CallContract.Proofs.Argument.Placement
import CallContract.Proofs.Argument.Spine
import CallContract.Proofs.Schema.Splice

/-!
# Why a form is not built

Slots are resolved along a walk: a list of slots, behind it the nested list that
stands for its rest without a schema of its own, and so on. A list with a
misplaced slot has no form. Any other list fails with the first type on its walk
that is not registered; then with what is declared for the rest at the end of
the walk, if it is no sequence or a sequence that cannot be spliced; and with
nothing else, as long as the bounds of the array are in the range of counts.
-/

set_option autoImplicit false

namespace CallContract

namespace Slot

/-- The slots of a list that are resolved, from a position on, each with its position in its own
list. A nested list for the rest is entered if no schema is declared for it. -/
def walkFrom (types : Registry) : Nat → List Slot → List (Slot × Nat)
  | _, [] => []
  | i, .named name a .regular :: more =>
    (.named name a .regular, i) :: walkFrom types (i + 1) more
  | i, .named name a .rest :: _ => [(.named name a .rest, i)]
  | i, .nested inner a .regular :: more =>
    (.nested inner a .regular, i) :: walkFrom types (i + 1) more
  | i, .nested inner a .rest :: _ =>
    (.nested inner a .rest, i) ::
      if schema? types (.nested inner a .rest) = some Schema.any then walkFrom types 0 inner else []

def walk (types : Registry) (slots : List Slot) : List (Slot × Nat) := walkFrom types 0 slots

def unknown? (types : Registry) : Slot × Nat → Option (TypeToken × String)
  | (slot, i) => match slot.typing with
    | .type t => if types.lookup t = none then some (t, slot.nameAt i) else none
    | _ => none

def declared? (types : Registry) : Slot × Nat → Option Schema
  | (slot, _) => if slot.isRest then (slot.schema? types).filter (· ≠ Schema.any) else none

def InRange (types : Registry) (i : Nat) (slots : List Slot) : Prop :=
  ∀ spine, spineFrom types i slots = some spine →
    spine.least < 2 ^ 64 ∧ ∀ n ∈ spine.most?, n < 2 ^ 64

variable {types : Registry} {slot : Slot} {more : List Slot} {i : Nat}

theorem walk_from_regular (types : Registry) (i : Nat) (h : slot.isRest = false)
    (more : List Slot) :
    walkFrom types i (slot :: more) = (slot, i) :: walkFrom types (i + 1) more := by
  cases slot with
  | named name typing role =>
    cases role with
    | regular => rw [walkFrom]
    | rest => cases h
  | nested slots typing role =>
    cases role with
    | regular => rw [walkFrom]
    | rest => cases h

def walkInside (types : Registry) : Slot → List (Slot × Nat)
  | .named _ _ _ => []
  | .nested inner _ _ => walkFrom types 0 inner

theorem walk_from_rest (types : Registry) (i : Nat) (h : slot.isRest = true) (more : List Slot) :
    walkFrom types i (slot :: more) = (slot, i) ::
      if slot.schema? types = some Schema.any then walkInside types slot else [] := by
  cases slot with
  | named name typing role =>
    cases role with
    | rest =>
      rw [walkFrom, walkInside, ite_self]
    | regular => cases h
  | nested slots typing role =>
    cases role with
    | rest =>
      rw [walkFrom, walkInside]
    | regular => cases h

theorem declared_regular (h : slot.isRest = false) : declared? types (slot, i) = none :=
  if_neg (by simp [h])

theorem InRange.tail (h : InRange types i (slot :: more)) (hr : slot.isRest = false)
    {s : Schema} (hs : slot.schema? types = some s) : InRange types (i + 1) more := by
  intro spine hspine
  have hwhole : spineFrom types i (slot :: more) = some (spine.behind [(slot.nameAt i, s)]) := by
    rw [spine_from_regular types i hr, hs, hspine]
    rfl
  obtain ⟨hleast, hmost⟩ := h _ hwhole
  rw [Spine.least_behind] at hleast
  rw [Spine.most_behind] at hmost
  refine ⟨by omega, fun n hn => ?_⟩
  have := hmost _ (Option.map_eq_some_iff.mpr ⟨n, hn, rfl⟩)
  omega

end Slot

namespace ArgumentForm

open Slot

variable {types : Registry} {slot : Slot} {slots more : List Slot} {i : Nat} {e : FormError}

theorem resolve_error : resolve types (slot.nameAt i) slot.typing = .error e ↔
    ∃ t name, unknown? types (slot, i) = some (t, name) ∧ e = .unknownType t name := by
  unfold resolve unknown?
  cases ht : slot.typing with
  | none => simp [ht]
  | schema s => simp [ht]
  | type t =>
    cases hl : types.lookup t with
    | none => simp [ht, hl, eq_comm]
    | some s => simp [ht, hl]

theorem unknown_of_resolve {s : Schema}
    (h : resolve types (slot.nameAt i) slot.typing = .ok s) : unknown? types (slot, i) = none := by
  cases hu : unknown? types (slot, i) with
  | none => rfl
  | some p =>
    rw [resolve_error.mpr ⟨p.1, p.2, hu, rfl⟩] at h
    cases h

def inputFrom (types : Registry) (i : Nat) (slots : List Slot) : Except FormError Schema :=
  partsFrom types i slots >>= fun parts => parts.input.mapError .schema

def refusal? (s : Schema) : Option FormError :=
  if s.isSequence then
    match Schema.concat (Schema.tuple []) s with
    | .ok _ => none
    | .error cause => some (.schema cause)
  else some (.restNotSequence s)

def flaw? (types : Registry) (walk : List (Slot × Nat)) : Option FormError :=
  ((walk.findSome? (unknown? types)).map fun p => .unknownType p.1 p.2).or
    ((walk.findSome? (declared? types)).bind refusal?)

theorem flaw_unknown {p : Slot × Nat} {t : TypeToken} {name : String}
    (h : unknown? types p = some (t, name)) (walk : List (Slot × Nat)) :
    flaw? types (p :: walk) = some (.unknownType t name) := by
  rw [flaw?, List.findSome?_cons, h]
  rfl

theorem flaw_none {p : Slot × Nat} (hu : unknown? types p = none)
    (hd : declared? types p = none) (walk : List (Slot × Nat)) :
    flaw? types (p :: walk) = flaw? types walk := by
  rw [flaw?, flaw?, List.findSome?_cons, hu, List.findSome?_cons, hd]

/-- A list fails with this flaw and with nothing else; what its schemas are refused for counts only
if it is in range. -/
def FailsBy (flaw : Option FormError) (inRange : Prop) (x : Except FormError Schema) : Prop :=
  ∀ e, (inRange ∨ ∀ cause, e ≠ .schema cause) → (x = .error e ↔ flaw = some e)

theorem fails_by_error (p : Prop) (e : FormError) : FailsBy (some e) p (.error e) :=
  fun _ _ => ⟨fun h => congrArg _ (Except.error.inj h), fun h => congrArg _ (Option.some.inj h)⟩

theorem fails_by_ok (p : Prop) (s : Schema) : FailsBy none p (.ok s) :=
  fun _ _ => ⟨fun h => (nomatch h), fun h => nomatch h⟩

theorem FailsBy.of_errors {flaw : Option FormError} {p q : Prop} {x y : Except FormError Schema}
    (h : FailsBy flaw p x) (hpq : q → p)
    (he : ∀ e, (q ∨ ∀ cause, e ≠ .schema cause) → (y = .error e ↔ x = .error e)) :
    FailsBy flaw q y :=
  fun e hq => (he e hq).trans (h e (hq.imp_left hpq))

theorem counts_fit_of_parts {parts : Parts} (h : partsFrom types i slots = .ok parts)
    (hhere : misplacedHere? slots = none) (hin : misplacedInside? slots = none)
    (hrange : InRange types i slots) {rest : Binding × Schema} (hr : parts.rest = some rest) :
    Schema.CountsFit parts.regular.length rest.2 := by
  obtain ⟨spine, hspine, hread⟩ := traced_of_parts h hhere hin
  rw [hr] at hread
  obtain ⟨hleast, hmost⟩ := hrange _ hspine
  rw [Spine.least_behind, List.length_map] at hleast
  rw [Spine.most_behind, List.length_map] at hmost
  refine ⟨by omega, fun _ _ count hc => ?_, fun _ _ _ count hc => ?_⟩
  · have hcount : count = spine.least := hread.least _ hc
    omega
  · exact hmost _ (Option.map_eq_some_iff.mpr ⟨count, (hread.most _ hc).symm, rfl⟩)

/-- A further regular argument changes nothing about why an array is not made. -/
theorem add_regular_error {parts : Parts} {b : Binding} {cause : SchemaError}
    (hfit : ∀ rest, parts.rest = some rest →
      Schema.CountsFit (parts.addRegular b).regular.length rest.2) :
    (parts.addRegular b).input = .error cause ↔ parts.input = .error cause := by
  have hrest : (parts.addRegular b).rest = parts.rest := rfl
  rw [Parts.input, Parts.input, hrest]
  cases hr : parts.rest with
  | none => simp
  | some rest =>
    have hall := hfit rest hr
    refine Schema.concat_tuple_error ?_ ?_
    · rwa [List.length_map]
    · rw [List.length_map]
      exact hall.mono (Nat.le_succ _)

theorem input_from_regular (hr : slot.isRest = false) {s : Schema}
    (hs : resolve types (slot.nameAt i) slot.typing = .ok s)
    (hhere : misplacedHere? (slot :: more) = none) (hin : misplacedInside? (slot :: more) = none)
    (he : InRange types i (slot :: more) ∨ ∀ cause, e ≠ .schema cause) :
    inputFrom types i (slot :: more) = .error e ↔ inputFrom types (i + 1) more = .error e := by
  have hparts := parts_from_regular types i hr more
  rw [hs] at hparts
  unfold inputFrom
  cases hp : partsFrom types (i + 1) more with
  | error e =>
    rw [hparts, hp]
    rfl
  | ok parts =>
    replace hparts : partsFrom types i (slot :: more) =
        .ok (parts.addRegular ⟨slot.nameAt i, s, i, .regular⟩) := by
      rw [hparts, hp]
      rfl
    rw [hparts]
    change (parts.addRegular _).input.mapError FormError.schema = _ ↔ parts.input.mapError _ = _
    rw [map_error_error, map_error_error]
    rcases he with hrange | he
    · exact exists_congr fun cause => and_congr_left fun _ => add_regular_error fun rest hrest =>
        counts_fit_of_parts hparts hhere hin hrange hrest
    · exact iff_of_false (fun ⟨cause, _, hc⟩ => he cause hc.symm)
        fun ⟨cause, _, hc⟩ => he cause hc.symm

theorem fails_by_regular (hr : slot.isRest = false)
    (hhere : misplacedHere? (slot :: more) = none) (hin : misplacedInside? (slot :: more) = none)
    (h : FailsBy (flaw? types (walkFrom types (i + 1) more)) (InRange types (i + 1) more)
      (inputFrom types (i + 1) more)) :
    FailsBy (flaw? types (walkFrom types i (slot :: more))) (InRange types i (slot :: more))
      (inputFrom types i (slot :: more)) := by
  rw [walk_from_regular types i hr]
  cases hs : resolve types (slot.nameAt i) slot.typing with
  | error e =>
    obtain ⟨t, name, hu, rfl⟩ := resolve_error.mp hs
    rw [flaw_unknown hu, inputFrom, parts_from_regular types i hr, hs]
    exact fails_by_error _ _
  | ok s =>
    rw [flaw_none (unknown_of_resolve hs) (declared_regular hr)]
    exact h.of_errors (fun hrange => hrange.tail hr (schema_of_resolve hs))
      fun e => input_from_regular hr hs hhere hin

theorem input_from_rest (types : Registry) (i : Nat) (hr : slot.isRest = true) :
    inputFrom types i [slot] = (do
      let s ← resolve types (slot.nameAt i) slot.typing
      let tail ← tailOf s (inner types slot)
      (Schema.concat (Schema.tuple []) tail).mapError .schema) := by
  rw [inputFrom, parts_from_rest types i hr, partsFrom]
  cases resolve types (slot.nameAt i) slot.typing with
  | error e => rfl
  | ok s =>
    cases htail : tailOf s (inner types slot) with
    | error e => simp [htail, bind, Except.bind]
    | ok tail => simp [htail, bind, Except.bind]; rfl

theorem fails_by_declared {s : Schema} (hs : s ≠ Schema.any) (p : Prop)
    (inner : Except FormError Schema) : FailsBy (refusal? s) p (tailOf s inner >>= fun tail =>
      (Schema.concat (Schema.tuple []) tail).mapError .schema) := by
  rw [tailOf, if_neg (mt any_iff.mp hs), refusal?]
  cases s.isSequence with
  | false => exact fails_by_error _ _
  | true =>
    change FailsBy _ p ((Schema.concat (Schema.tuple []) s).mapError .schema)
    cases Schema.concat (Schema.tuple []) s with
    | error cause => exact fails_by_error _ _
    | ok r => exact fails_by_ok _ _

theorem fails_by_rest (hr : slot.isRest = true)
    (h : slot.schema? types = some Schema.any →
      FailsBy (flaw? types (walkInside types slot)) (InRange types i [slot])
        (inner types slot >>= fun tail =>
          (Schema.concat (Schema.tuple []) tail).mapError .schema)) :
    FailsBy (flaw? types (walkFrom types i [slot])) (InRange types i [slot])
      (inputFrom types i [slot]) := by
  rw [walk_from_rest types i hr, input_from_rest types i hr]
  cases hs : resolve types (slot.nameAt i) slot.typing with
  | error e =>
    obtain ⟨t, name, hu, rfl⟩ := resolve_error.mp hs
    rw [flaw_unknown hu]
    exact fails_by_error _ _
  | ok s =>
    have hschema := schema_of_resolve hs
    have hu := unknown_of_resolve hs
    have hdeclared : declared? types (slot, i) = (some s).filter (· ≠ Schema.any) := by
      rw [declared?, if_pos hr, hschema]
    rw [hschema]
    by_cases hany : s = Schema.any
    · subst hany
      rw [if_pos rfl, flaw_none hu (hdeclared.trans rfl)]
      exact h hschema
    · have hflaw : flaw? types [(slot, i)] = refusal? s := by
        rw [flaw?, List.findSome?_cons, hu, List.findSome?_cons, hdeclared, Option.filter_some,
          decide_eq_true hany]
        rfl
      rw [if_neg fun he => hany (Option.some.inj he), hflaw]
      exact fails_by_declared hany _ _

theorem inner_nested (slots : List Slot) (typing : Typing) (role : Role) :
    inner types (.nested slots typing role) = inputFrom types 0 slots := by
  rw [inner, inputFrom]
  cases partsFrom types 0 slots with
  | error e => rfl
  | ok parts => rfl

/-- An array that is made of a list whose slots for the rest are in place can be spliced, as far as
counts reach. -/
theorem concat_input_from {s : Schema} (hhere : misplacedHere? slots = none)
    (hin : misplacedInside? slots = none) (hrange : InRange types i slots)
    (h : inputFrom types i slots = .ok s) {parts : List (Schema × Entries)}
    (hfit : Schema.CountsFit parts.length s) :
    ∃ r, Schema.concat (Schema.tuple parts) s = .ok r := by
  obtain ⟨found, hfound, h⟩ := bind_ok.mp h
  obtain ⟨spine, hspine, rfl, -⟩ := (traced_of_parts hfound hhere hin).input (map_error_ok.mp h)
  obtain ⟨hleast, hmost⟩ := hrange spine hspine
  rw [Spine.schema_eq] at hfit ⊢
  obtain ⟨hmin, hmax⟩ :=
    Schema.count_of_bounded_array spine.elements spine.ending.items hleast hmost
  have helements : ∃ elements, Schema.elements? (Schema.boundedArray spine.elements
      spine.ending.items spine.least spine.most?) = some elements :=
    ⟨_, Schema.elements_bounded_array⟩
  have himmovable : Schema.immovable? (Schema.boundedArray spine.elements spine.ending.items
      spine.least spine.most?) = none :=
    Schema.immovable_none Schema.keys_bounded_array
  refine ⟨_, Schema.concat_bounded_array (hfit.least helements himmovable _ hmin) fun n hn => ?_⟩
  exact hfit.most helements himmovable ⟨_, hmin⟩ n (hmax.trans (congrArg _ hn))

theorem FailsBy.splice {flaw : Option FormError} {p : Prop} {x : Except FormError Schema}
    (h : FailsBy flaw p x)
    (hsplice : p → ∀ s, x = .ok s → ∃ r, Schema.concat (Schema.tuple []) s = .ok r) :
    FailsBy flaw p (x >>= fun tail => (Schema.concat (Schema.tuple []) tail).mapError .schema) := by
  refine fun e he => Iff.trans ?_ (h e he)
  rw [bind_error, or_iff_left]
  rintro ⟨s, hs, hc⟩
  obtain ⟨cause, hc, rfl⟩ := map_error_error.mp hc
  rcases he with hp | he
  · obtain ⟨r, hr⟩ := hsplice hp s hs
    rw [hr] at hc
    cases hc
  · exact he cause rfl

/-- A list whose slots for the rest are in place fails with the first flaw on its walk. -/
theorem fails_by_from (types : Registry) (i : Nat) (hhere : misplacedHere? slots = none)
    (hin : misplacedInside? slots = none) :
    FailsBy (flaw? types (walkFrom types i slots)) (InRange types i slots)
      (inputFrom types i slots) := by
  induction i, slots using partsFrom.induct with
  | case1 i =>
    rw [walkFrom, inputFrom, partsFrom]
    exact fails_by_ok _ _
  | case2 i name typing more ih =>
    have hrest := ih (misplaced_here_cons hhere).2 (misplaced_inside_cons hin).1
    exact fails_by_regular rfl hhere hin hrest
  | case3 i name typing more ih =>
    obtain rfl := (misplaced_here_cons hhere).1 rfl
    exact fails_by_rest rfl fun _ => fails_by_ok _ _
  | case4 i inner typing more ih =>
    have hrest := ih (misplaced_here_cons hhere).2 (misplaced_inside_cons hin).1
    exact fails_by_regular rfl hhere hin hrest
  | case5 i slots typing more ihin ih =>
    obtain rfl := (misplaced_here_cons hhere).1 rfl
    obtain ⟨hhere, hinside⟩ := (misplaced_inside_cons hin).2 slots typing .rest rfl
    refine fails_by_rest rfl fun hany => ?_
    rw [inner_nested]
    -- the walk goes on in the nested list, and what is made of that list is spliced as the rest
    have hspine : spineFrom types i [.nested slots typing .rest] = spineFrom types 0 slots := by
      rw [spineFrom, hany]
      rfl
    have hrange : InRange types i [.nested slots typing .rest] ↔ InRange types 0 slots := by
      rw [InRange, hspine]
      rfl
    rw [hrange]
    exact (ihin hhere hinside).splice fun hp s hs =>
      concat_input_from hhere hinside hp hs (Schema.counts_fit_nil s)

theorem build_error (hm : misplaced? slots = none) :
    build types slots = .error e ↔ inputFrom types 0 slots = .error e := by
  rw [build, hm, inputFrom, bind_error, bind_error]
  refine or_congr_right (exists_congr fun parts => and_congr_right fun _ => ?_)
  rw [bind_error, or_iff_left]
  rintro ⟨_, _, h⟩
  cases h

theorem refusal_not_sequence {s t : Schema} :
    refusal? s = some (.restNotSequence t) ↔ s = t ∧ s.isSequence = false := by
  unfold refusal?
  cases s.isSequence with
  | false => simp
  | true => cases Schema.concat (Schema.tuple []) s <;> simp

theorem refusal_schema {s : Schema} {cause : SchemaError} :
    refusal? s = some (.schema cause) ↔
      s.isSequence = true ∧ ∀ parts, Schema.CountsFit parts.length s →
        Schema.concat (Schema.tuple parts) s = .error cause := by
  have hall : (∀ parts, Schema.CountsFit parts.length s →
      Schema.concat (Schema.tuple parts) s = .error cause) ↔
      Schema.concat (Schema.tuple []) s = .error cause :=
    ⟨fun h => h [] (Schema.counts_fit_nil s),
      fun h _ hfit => (Schema.concat_tuple_error (Schema.counts_fit_nil s) hfit).mp h⟩
  rw [hall]
  unfold refusal?
  cases s.isSequence with
  | false => simp
  | true => cases Schema.concat (Schema.tuple []) s <;> simp

theorem refusal_none {s : Schema} : refusal? s = none ↔
    s.isSequence = true ∧ ∀ parts, Schema.CountsFit parts.length s →
      ∃ r, Schema.concat (Schema.tuple parts) s = .ok r := by
  have hall : (∀ parts, Schema.CountsFit parts.length s →
      ∃ r, Schema.concat (Schema.tuple parts) s = .ok r) ↔
      ∃ r, Schema.concat (Schema.tuple []) s = .ok r := by
    refine ⟨fun h => h [] (Schema.counts_fit_nil s), fun ⟨r, hr⟩ parts hfit => ?_⟩
    cases hparts : Schema.concat (Schema.tuple parts) s with
    | ok r => exact ⟨r, rfl⟩
    | error cause =>
      rw [(Schema.concat_tuple_error hfit (Schema.counts_fit_nil s)).mp hparts] at hr
      cases hr
  rw [hall]
  unfold refusal?
  cases s.isSequence with
  | false => simp
  | true => cases Schema.concat (Schema.tuple []) s <;> simp

theorem refusal_other {s : Schema} (h : refusal? s = some e) :
    e = .restNotSequence s ∨ ∃ cause, e = .schema cause := by
  unfold refusal? at h
  split at h
  · split at h
    · cases h
    · exact .inr ⟨_, (Option.some.inj h).symm⟩
  · exact .inl (Option.some.inj h).symm

section Flaw

variable {walk : List (Slot × Nat)}

theorem flaw_of_known (h : walk.findSome? (unknown? types) = none) :
    flaw? types walk = (walk.findSome? (declared? types)).bind refusal? := by
  rw [flaw?, h]
  rfl

theorem flaw_unknown_type {t : TypeToken} {name : String} :
    flaw? types walk = some (.unknownType t name) ↔
      walk.findSome? (unknown? types) = some (t, name) := by
  cases hu : walk.findSome? (unknown? types) with
  | some p => simp [flaw?, hu, Prod.ext_iff]
  | none =>
    rw [flaw_of_known hu, Option.bind_eq_some_iff]
    refine iff_of_false ?_ (fun h => nomatch h)
    rintro ⟨s, -, hs⟩
    rcases refusal_other hs with he | ⟨_, he⟩ <;> cases he

theorem flaw_not_sequence {s : Schema} (h : walk.findSome? (unknown? types) = none) :
    flaw? types walk = some (.restNotSequence s) ↔
      walk.findSome? (declared? types) = some s ∧ s.isSequence = false := by
  rw [flaw_of_known h, Option.bind_eq_some_iff]
  simp only [refusal_not_sequence]
  constructor
  · rintro ⟨_, hs, rfl, hsequence⟩
    exact ⟨hs, hsequence⟩
  · rintro ⟨hs, hsequence⟩
    exact ⟨s, hs, rfl, hsequence⟩

theorem flaw_schema {cause : SchemaError} (h : walk.findSome? (unknown? types) = none) :
    flaw? types walk = some (.schema cause) ↔
      ∃ s, walk.findSome? (declared? types) = some s ∧ s.isSequence = true ∧
        ∀ parts, Schema.CountsFit parts.length s →
          Schema.concat (Schema.tuple parts) s = .error cause := by
  rw [flaw_of_known h, Option.bind_eq_some_iff]
  simp only [refusal_schema]

theorem flaw_nothing (h : walk.findSome? (unknown? types) = none) : flaw? types walk = none ↔
    ∀ s, walk.findSome? (declared? types) = some s → s.isSequence = true ∧
      ∀ parts, Schema.CountsFit parts.length s →
        ∃ r, Schema.concat (Schema.tuple parts) s = .ok r := by
  rw [flaw_of_known h, Option.bind_eq_none_iff]
  simp only [refusal_none]

theorem flaw_not_misplaced {cause : Misplacement} :
    flaw? types walk ≠ some (.misplacedRest cause) := by
  intro h
  cases hu : walk.findSome? (unknown? types) with
  | some p => simp [flaw?, hu] at h
  | none =>
    rw [flaw_of_known hu] at h
    obtain ⟨s, -, hs⟩ := Option.bind_eq_some_iff.mp h
    rcases refusal_other hs with he | ⟨_, he⟩ <;> cases he

end Flaw

/-- The reason why a form is not built is the first flaw on its walk. -/
theorem build_flaw (hm : misplaced? slots = none)
    (he : InRange types 0 slots ∨ ∀ cause, e ≠ .schema cause) :
    build types slots = .error e ↔ flaw? types (walk types slots) = some e := by
  obtain ⟨hhere, hin⟩ := Option.or_eq_none_iff.mp hm
  rw [build_error hm, fails_by_from types 0 hhere hin e he]
  rfl

theorem build_misplaced : (∃ cause, build types slots = .error (.misplacedRest cause)) ↔
    ∃ list, ListIn slots list ∧ OutOfOrder list := by
  have hplaced : (∃ list, ListIn slots list ∧ OutOfOrder list) ↔ misplaced? slots ≠ none := by
    rw [Ne, misplaced_iff]
    push Not
    rfl
  rw [hplaced]
  cases hm : misplaced? slots with
  | some cause => exact iff_of_true ⟨cause, by rw [build, hm]⟩ (fun h => nomatch h)
  | none =>
    refine iff_of_false ?_ (fun h => h rfl)
    rintro ⟨cause, h⟩
    exact flaw_not_misplaced ((build_flaw hm (.inr (by simp))).mp h)

theorem build_flawless (hm : misplaced? slots = none) (hrange : InRange types 0 slots) :
    (∃ form, build types slots = .ok form) ↔ flaw? types (walk types slots) = none := by
  cases hb : build types slots with
  | ok form =>
    refine iff_of_true ⟨form, rfl⟩ (Option.eq_none_iff_forall_ne_some.mpr fun e he => ?_)
    rw [(build_flaw hm (.inl hrange)).mpr he] at hb
    cases hb
  | error e =>
    rw [(build_flaw hm (.inl hrange)).mp hb]
    exact iff_of_false (fun ⟨_, h⟩ => nomatch h) (fun h => nomatch h)

theorem concat_unshaped (parts : List (Schema × Entries)) :
    ∃ r, Schema.concat (Schema.tuple parts) (Schema.sequenceOf Schema.any) = .ok r :=
  ⟨_, bind_ok.mpr ⟨_, Schema.elements_of_tuple parts, rfl⟩⟩

theorem concat_built {form : ArgumentForm} (h : build types slots = .ok form)
    (hrange : InRange types 0 slots) {parts : List (Schema × Entries)}
    (hfit : Schema.CountsFit parts.length form.input) :
    ∃ r, Schema.concat (Schema.tuple parts) form.input = .ok r := by
  obtain ⟨hm, found, hfound, hi, -, -⟩ := build_ok h
  obtain ⟨hhere, hin⟩ := Option.or_eq_none_iff.mp hm
  exact concat_input_from hhere hin hrange
    (bind_ok.mpr ⟨found, hfound, map_error_ok.mpr hi⟩) hfit

/-- A form is not built if a list, at any depth, is out of order; else for the first type on the
walk that is not registered; else for what is declared for the rest, if it is no sequence or cannot
be spliced; and otherwise it is built. What stands for the rest without a schema can be spliced. -/
theorem build_errors (types : Registry) (slots : List Slot) :
    ((∃ cause, build types slots = .error (.misplacedRest cause)) ↔
      ∃ list, ListIn slots list ∧ OutOfOrder list) ∧
    ((∀ list, ListIn slots list → ¬OutOfOrder list) →
      (∀ t name, build types slots = .error (.unknownType t name) ↔
        (walk types slots).findSome? (unknown? types) = some (t, name)) ∧
      ((walk types slots).findSome? (unknown? types) = none →
        (∀ s, build types slots = .error (.restNotSequence s) ↔
          (walk types slots).findSome? (declared? types) = some s ∧ s.isSequence = false) ∧
        (InRange types 0 slots →
          (∀ cause, build types slots = .error (.schema cause) ↔
            ∃ s, (walk types slots).findSome? (declared? types) = some s ∧ s.isSequence = true ∧
              ∀ parts, Schema.CountsFit parts.length s →
                Schema.concat (Schema.tuple parts) s = .error cause) ∧
          ((∃ form, build types slots = .ok form) ↔
            ∀ s, (walk types slots).findSome? (declared? types) = some s →
              s.isSequence = true ∧ ∀ parts, Schema.CountsFit parts.length s →
                ∃ r, Schema.concat (Schema.tuple parts) s = .ok r)))) ∧
    (∀ parts, ∃ r, Schema.concat (Schema.tuple parts) (Schema.sequenceOf Schema.any) = .ok r) ∧
    ∀ inner form, build types inner = .ok form → InRange types 0 inner →
      ∀ parts, Schema.CountsFit parts.length form.input →
        ∃ r, Schema.concat (Schema.tuple parts) form.input = .ok r := by
  refine ⟨build_misplaced, fun hplaced => ?_, concat_unshaped,
    fun _ _ hform hrange _ hfit => concat_built hform hrange hfit⟩
  have hm := misplaced_iff.mpr hplaced
  refine ⟨fun t name => ?_, fun hknown => ⟨fun s => ?_, fun hrange => ⟨fun cause => ?_, ?_⟩⟩⟩
  · exact (build_flaw hm (.inr (by simp))).trans flaw_unknown_type
  · exact (build_flaw hm (.inr (by simp))).trans (flaw_not_sequence hknown)
  · exact (build_flaw hm (.inl hrange)).trans (flaw_schema hknown)
  · exact (build_flawless hm hrange).trans (flaw_nothing hknown)

def uniqueItems : Schema := .obj [("type", .str "array"), ("uniqueItems", .bool true)]

def uniqueSlots : List Slot :=
  [.named "x" .none .regular,
    .nested [.named "y" .none .regular, .named "all" (.schema uniqueItems) .rest] .none .rest]

theorem deep_slots_in_range : InRange .empty 0 deepSlots := by
  intro spine hspine
  cases deep_slots_spine.symm.trans hspine
  exact ⟨by decide, by decide⟩

theorem concat_pairs {parts : List (Schema × Entries)}
    (hfit : Schema.CountsFit parts.length pairs) :
    ∃ r, Schema.concat (Schema.tuple parts) pairs = .ok r :=
  Schema.concat_tuple_ok rfl (by decide) rfl rfl hfit

/-- A list out of order in a slot that is taken apart comes before a type that is not registered;
and such a type is found in a nested list for the rest, under the name made from its position there.
A sequence that is declared in such a list may be refused; another is not, and then the array of the
whole goes behind a further argument. -/
theorem build_errors_nested :
    (∃ cause, build .empty [.named "x" (.type (.named "T")) .regular,
      .nested [.named "a" .none .rest, .named "b" .none .regular] .none .regular] =
        .error (.misplacedRest cause)) ∧
    build .empty [.nested [] .none .regular,
      .nested [.named "y" .none .regular, .nested [] (.type (.named "T")) .regular] .none .rest] =
        .error (.unknownType (.named "T") "arg1") ∧
    build .empty uniqueSlots = .error (.schema (.unsupportedKeyword "uniqueItems" uniqueItems)) ∧
    ∃ form, build .empty deepSlots = .ok form ∧
      ∃ r, Schema.concat (Schema.tuple [(Schema.any, [])]) form.input = .ok r := by
  have hplaced : misplaced? [.nested [] .none .regular, .nested [.named "y" .none .regular,
      .nested [] (.type (.named "T")) .regular] .none .rest] = none := by cbv
  refine ⟨(build_errors _ _).1.mpr ⟨_, .inside .self (List.mem_cons_of_mem _ List.mem_cons_self),
    .inr ⟨0, _, rfl, rfl, by decide⟩⟩, ?_, ?_, ?_⟩
  · exact (((build_errors _ _).2.1 (misplaced_iff.mp hplaced)).1 _ _).mpr (by cbv)
  · have hunique : misplaced? uniqueSlots = none := by cbv
    have hrange : InRange .empty 0 uniqueSlots := by
      intro spine hspine
      have hfound : spine? .empty uniqueSlots =
          some ⟨[("x", .bool true), ("y", .bool true)], .sequence uniqueItems⟩ := by cbv
      cases hfound.symm.trans hspine
      exact ⟨by decide, by decide⟩
    obtain ⟨hrefused, -⟩ := (((build_errors .empty uniqueSlots).2.1
      (misplaced_iff.mp hunique)).2 (by cbv)).2 hrange
    refine (hrefused _).mpr ⟨uniqueItems, by cbv, by rfl, fun parts _ => ?_⟩
    exact bind_error.mpr (.inr ⟨_, Schema.elements_of_tuple parts, rfl⟩)
  · have hdeep : misplaced? deepSlots = none := by cbv
    obtain ⟨-, hbuilt⟩ := (((build_errors .empty deepSlots).2.1
      (misplaced_iff.mp hdeep)).2 (by cbv)).2 deep_slots_in_range
    have hdeclared : (walk .empty deepSlots).findSome? (declared? .empty) = some pairs := by cbv
    obtain ⟨form, hform⟩ := hbuilt.mpr fun s hs => by
      cases hdeclared.symm.trans hs
      exact ⟨by rfl, fun _ => concat_pairs⟩
    obtain ⟨-, parts, hparts, hi, -, -⟩ := build_ok hform
    obtain ⟨hhere, hin⟩ := Option.or_eq_none_iff.mp hdeep
    obtain ⟨spine, hspine, hinput, -⟩ := (traced_of_parts hparts hhere hin).input hi
    cases deep_slots_spine.symm.trans hspine
    have hsplice := (build_errors .empty []).2.2.2 deepSlots form hform deep_slots_in_range
    refine ⟨form, hform, hsplice _ ?_⟩
    rw [hinput, Spine.schema_eq]
    exact Schema.counts_fit_bounded (by decide) (by decide)

end ArgumentForm

end CallContract
