import CallContract.Argument.Form
import CallContract.Proofs.Schema.Sequence

/-!
# What a list of slots demands

A list of slots demands a schema of each regular argument and, if it has a slot
for the rest, one of the list of all further arguments. The input schema of the
form that is built for the slots accepts exactly the argument lists that meet
the demand.
-/

set_option autoImplicit false

namespace CallContract

/-- A schema for each regular argument and, if there may be more, one for the list of the others. -/
structure Demand where
  regular : List Schema
  tail : Option Schema

namespace Demand

/-- Whether every argument is accepted by its schema standing alone, and the others together by the
schema of the tail. -/
def Met (d : Demand) (args : List Json) : Prop :=
  (∀ (i : Nat) (s : Schema) (x : Json), d.regular[i]? = some s → args[i]? = some x →
    s.accepts x = true) ∧
  match d.tail with
  | none => args.length = d.regular.length
  | some t =>
    d.regular.length ≤ args.length ∧ t.accepts (.arr (args.drop d.regular.length)) = true

def MetBy (accept : Schema → Json → Bool) (d : Demand) (args : List Json) : Prop :=
  (∀ (i : Nat) (s : Schema) (x : Json), d.regular[i]? = some s → args[i]? = some x →
    accept s x = true) ∧
  match d.tail with
  | none => args.length = d.regular.length
  | some t =>
    d.regular.length ≤ args.length ∧ accept t (.arr (args.drop d.regular.length)) = true

theorem met_by_accepts (d : Demand) (args : List Json) :
    d.MetBy Schema.accepts args ↔ d.Met args := Iff.rfl

theorem met_by_congr {d : Demand} {a b : Schema → Json → Bool}
    (hregular : ∀ s ∈ d.regular, ∀ v, a s v = b s v)
    (htail : ∀ t ∈ d.tail, ∀ xs, a t (.arr xs) = b t (.arr xs)) (args : List Json) :
    d.MetBy a args ↔ d.MetBy b args := by
  refine and_congr ?_ ?_
  · refine forall₅_congr fun i s x hs _ => ?_
    rw [hregular s (List.mem_of_getElem? hs) x]
  · cases ht : d.tail with
    | none => exact Iff.rfl
    | some t =>
      dsimp only
      rw [htail t ht]

def SelfContained (d : Demand) : Prop :=
  (∀ s ∈ d.regular, s.selfContained = true) ∧ ∀ t ∈ d.tail, t.selfContained = true

def schemas (d : Demand) : List Schema := d.regular ++ d.tail.toList

theorem forall_schemas {d : Demand} {P : Schema → Prop} :
    (∀ s ∈ d.schemas, P s) ↔ (∀ s ∈ d.regular, P s) ∧ ∀ t ∈ d.tail, P t := by
  simp only [schemas, List.mem_append, Option.mem_toList, Option.mem_def, or_imp, forall_and]

end Demand

open ArgumentForm

namespace Slot

def schema? (types : Registry) (slot : Slot) : Option Schema :=
  match slot.typing with
  | .none => some Schema.any
  | .schema s => some s
  | .type t => types.lookup t

def openTail? (types : Registry) : Slot → Option Schema
  | .named _ _ _ => some (Schema.sequenceOf Schema.any)
  | .nested inner _ _ => (ArgumentForm.build types inner).toOption.map (·.input)

def tail? (types : Registry) (slot : Slot) : Option Schema :=
  (slot.schema? types).bind fun s => if s.isAny then slot.openTail? types else some s

def demand? (types : Registry) (slots : List Slot) : Option Demand := do
  let regular ← (slots.filter fun slot => !slot.isRest).mapM (·.schema? types)
  match slots.find? isRest with
  | none => some ⟨regular, none⟩
  | some slot => (slot.tail? types).map fun t => ⟨regular, some t⟩

theorem misplaced_here_cons {slot : Slot} {more : List Slot}
    (h : misplacedHere? (slot :: more) = none) :
    (slot.isRest = true → more = []) ∧ misplacedHere? more = none := by
  unfold misplacedHere? at h ⊢
  split at h
  · cases h
  · rename_i hcount
    cases hr : slot.isRest with
    | true =>
      simp only [List.findIdx?_cons, hr, if_true] at h
      have hmore : more = [] := by
        split at h
        · rename_i hlength
          simpa using hlength.symm
        · cases h
      subst hmore
      exact ⟨fun _ => rfl, rfl⟩
    | false =>
      rw [List.countP_cons_of_neg (by simp [hr])] at hcount
      simp only [List.findIdx?_cons, hr, Bool.false_eq_true, if_false] at h
      refine ⟨fun ht => (nomatch ht), ?_⟩
      rw [if_neg hcount]
      cases hf : more.findIdx? isRest with
      | none => rfl
      | some j =>
        simp only [hf, Option.map_some] at h
        split at h
        · rename_i hlength
          exact if_pos (Nat.succ.inj hlength)
        · cases h

theorem misplaced_inside_cons {slot : Slot} {more : List Slot}
    (h : misplacedInside? (slot :: more) = none) :
    misplacedInside? more = none ∧ ∀ inner typing role, slot = .nested inner typing role →
      misplacedHere? inner = none ∧ misplacedInside? inner = none := by
  cases slot with
  | named name typing role =>
    rw [misplacedInside?] at h
    refine ⟨h, ?_⟩
    rintro _ _ _ he
    cases he
  | nested inner typing role =>
    rw [misplacedInside?, Option.or_eq_none_iff, Option.or_eq_none_iff] at h
    refine ⟨h.2, fun _ _ _ he => ?_⟩
    cases he
    exact ⟨h.1.1, h.1.2⟩

theorem schema_of_resolve {types : Registry} {slot : Slot} {name : String} {s : Schema}
    (h : resolve types name slot.typing = .ok s) : slot.schema? types = some s := by
  unfold schema?
  cases ht : slot.typing with
  | none =>
    rw [ht] at h
    exact congrArg some (Except.ok.inj h)
  | schema t =>
    rw [ht] at h
    exact congrArg some (Except.ok.inj h)
  | type t =>
    rw [ht, resolve] at h
    cases hl : types.lookup t with
    | none => rw [hl] at h; cases h
    | some u =>
      rw [hl] at h
      exact hl.trans (congrArg some (Except.ok.inj h))

end Slot

namespace ArgumentForm

theorem any_iff {s : Schema} : s.isAny = true ↔ s = Schema.any := by
  unfold Schema.isAny Schema.any
  split <;> simp_all

def inner (types : Registry) : Slot → Except FormError Schema
  | .named _ _ _ => .ok (Schema.sequenceOf Schema.any)
  | .nested slots _ _ => match partsFrom types 0 slots with
    | .ok parts => parts.input.mapError .schema
    | .error e => .error e

theorem parts_from_regular (types : Registry) (i : Nat) {slot : Slot} (h : slot.isRest = false)
    (more : List Slot) : partsFrom types i (slot :: more) = (do
      let s ← resolve types (slot.nameAt i) slot.typing
      let parts ← partsFrom types (i + 1) more
      .ok (parts.addRegular ⟨slot.nameAt i, s, i, .regular⟩)) := by
  cases slot with
  | named name typing role =>
    cases role with
    | regular => rw [partsFrom]; rfl
    | rest => cases h
  | nested slots typing role =>
    cases role with
    | regular => rw [partsFrom]; rfl
    | rest => cases h

theorem parts_from_rest (types : Registry) (i : Nat) {slot : Slot} (h : slot.isRest = true)
    (more : List Slot) : partsFrom types i (slot :: more) = (do
      let s ← resolve types (slot.nameAt i) slot.typing
      let tail ← tailOf s (inner types slot)
      let parts ← partsFrom types (i + 1) more
      .ok (parts.addRest ⟨slot.nameAt i, s, i, .rest⟩ tail)) := by
  cases slot with
  | named name typing role =>
    cases role with
    | rest => rw [partsFrom]; rfl
    | regular => cases h
  | nested slots typing role =>
    cases role with
    | rest => rw [partsFrom]; rfl
    | regular => cases h

theorem parts_of_regular {types : Registry} {i : Nat} {slot : Slot} {more : List Slot}
    {parts : Parts} (hr : slot.isRest = false)
    (h : partsFrom types i (slot :: more) = .ok parts) :
    ∃ s rest, slot.schema? types = some s ∧ partsFrom types (i + 1) more = .ok rest ∧
      parts = rest.addRegular ⟨slot.nameAt i, s, i, .regular⟩ := by
  rw [parts_from_regular types i hr] at h
  obtain ⟨s, hs, h⟩ := bind_ok.mp h
  obtain ⟨rest, hrest, h⟩ := bind_ok.mp h
  cases h
  exact ⟨s, rest, Slot.schema_of_resolve hs, hrest, rfl⟩

theorem parts_of_rest {types : Registry} {i : Nat} {slot : Slot} {more : List Slot}
    {parts : Parts} (hr : slot.isRest = true)
    (h : partsFrom types i (slot :: more) = .ok parts) :
    ∃ s tail rest, slot.schema? types = some s ∧ tailOf s (inner types slot) = .ok tail ∧
      partsFrom types (i + 1) more = .ok rest ∧
      parts = rest.addRest ⟨slot.nameAt i, s, i, .rest⟩ tail := by
  rw [parts_from_rest types i hr] at h
  obtain ⟨s, hs, h⟩ := bind_ok.mp h
  obtain ⟨tail, ht, h⟩ := bind_ok.mp h
  obtain ⟨rest, hrest, h⟩ := bind_ok.mp h
  cases h
  exact ⟨s, tail, rest, Slot.schema_of_resolve hs, ht, hrest, rfl⟩

theorem slot_of_rest {types : Registry} {i : Nat} {slots : List Slot} {parts : Parts}
    (h : partsFrom types i slots = .ok parts) {b : Binding} {tail : Schema}
    (hb : parts.rest = some (b, tail)) :
    ∃ slot ∈ slots, slot.isRest = true ∧ slot.schema? types = some b.schema ∧
      tailOf b.schema (inner types slot) = .ok tail := by
  induction slots generalizing i parts with
  | nil =>
    rw [partsFrom] at h
    cases h
    cases hb
  | cons slot more ih =>
    have hmore {rest : Parts} (hrest : partsFrom types (i + 1) more = .ok rest)
        (hb : rest.rest = some (b, tail)) :
        ∃ found ∈ slot :: more, found.isRest = true ∧ found.schema? types = some b.schema ∧
          tailOf b.schema (inner types found) = .ok tail := by
      obtain ⟨found, hm, hfound⟩ := ih hrest hb
      exact ⟨found, List.mem_cons_of_mem _ hm, hfound⟩
    cases hr : slot.isRest with
    | false =>
      obtain ⟨s, rest, -, hrest, rfl⟩ := parts_of_regular hr h
      exact hmore hrest hb
    | true =>
      obtain ⟨s, found, rest, hs, ht, hrest, rfl⟩ := parts_of_rest hr h
      rcases Option.or_eq_some_iff.mp hb with hb | ⟨-, hb⟩
      · exact hmore hrest hb
      · cases hb
        exact ⟨slot, List.mem_cons_self, hr, hs, ht⟩

theorem build_ok {types : Registry} {slots : List Slot} {form : ArgumentForm}
    (h : build types slots = .ok form) :
    Slot.misplaced? slots = none ∧ ∃ parts, partsFrom types 0 slots = .ok parts ∧
      parts.input = .ok form.input ∧ form.regular = parts.regular ∧
      form.rest = parts.rest.map (·.1) := by
  unfold build at h
  split at h
  · cases h
  · rename_i hm
    obtain ⟨parts, hp, h⟩ := bind_ok.mp h
    obtain ⟨input, hi, h⟩ := bind_ok.mp h
    cases h
    exact ⟨hm, parts, hp, map_error_ok.mp hi, rfl, rfl⟩

theorem build_of_parts {types : Registry} {slots : List Slot} {parts : Parts} {input : Schema}
    (hm : Slot.misplaced? slots = none) (hp : partsFrom types 0 slots = .ok parts)
    (hi : parts.input = .ok input) :
    build types slots = .ok ⟨parts.regular, parts.rest.map (·.1), input⟩ := by
  rw [build, hm]
  exact bind_ok.mpr ⟨parts, hp, bind_ok.mpr ⟨input, map_error_ok.mpr hi, rfl⟩⟩

theorem tail_of_ok {s tail : Schema} {inner : Except FormError Schema}
    (h : tailOf s inner = .ok tail) :
    s.isAny = true ∧ inner = .ok tail ∨ s.isAny = false ∧ s.isSequence = true ∧ tail = s := by
  unfold tailOf at h
  split at h
  · rename_i hany
    exact .inl ⟨hany, h⟩
  · rename_i hany
    split at h
    · rename_i hsequence
      exact .inr ⟨Bool.eq_false_iff.mpr hany, hsequence, (Except.ok.inj h).symm⟩
    · cases h

theorem tail_of_inner {types : Registry} {slot : Slot} {more : List Slot}
    (hin : Slot.misplacedInside? (slot :: more) = none) {s tail : Schema}
    (hs : slot.schema? types = some s) (ht : tailOf s (inner types slot) = .ok tail) :
    slot.tail? types = some tail := by
  rw [Slot.tail?, hs, Option.bind_some]
  rcases tail_of_ok ht with ⟨hany, ht⟩ | ⟨hany, -, rfl⟩
  · rw [if_pos hany]
    cases slot with
    | named => exact congrArg some (Except.ok.inj ht)
    | nested slots typing role =>
      obtain ⟨hhere, hinside⟩ := (Slot.misplaced_inside_cons hin).2 slots typing role rfl
      dsimp only [inner] at ht
      split at ht
      · rename_i parts hp
        have hm : Slot.misplaced? slots = none := Option.or_eq_none_iff.mpr ⟨hhere, hinside⟩
        rw [Slot.openTail?, build_of_parts hm hp (map_error_ok.mp ht)]
        rfl
      · cases ht
  · rw [hany]
    rfl

theorem parts_from_ok {types : Registry} {i : Nat} {slots : List Slot} {parts : Parts}
    (h : partsFrom types i slots = .ok parts) (hone : slots.countP Slot.isRest ≤ 1)
    (hin : Slot.misplacedInside? slots = none) :
    (slots.filter fun slot => !slot.isRest).mapM (·.schema? types) =
        some (parts.regular.map (·.schema)) ∧
      match slots.find? Slot.isRest with
      | none => parts.rest = none
      | some slot => ∃ b tail, parts.rest = some (b, tail) ∧ slot.tail? types = some tail := by
  induction slots generalizing i parts with
  | nil =>
    rw [partsFrom] at h
    cases h
    exact ⟨rfl, rfl⟩
  | cons slot more ih =>
    have hmore := (Slot.misplaced_inside_cons hin).1
    cases hr : slot.isRest with
    | false =>
      obtain ⟨s, rest, hs, hrest, rfl⟩ := parts_of_regular hr h
      rw [List.countP_cons_of_neg (by simp [hr])] at hone
      obtain ⟨hregular, htail⟩ := ih hrest hone hmore
      refine ⟨?_, ?_⟩
      · rw [List.filter_cons_of_pos (by simp [hr]), List.mapM_cons, hs, hregular]
        rfl
      · rw [List.find?_cons_of_neg (by simp [hr])]
        exact htail
    | true =>
      obtain ⟨s, tail, rest, hs, ht, hrest, rfl⟩ := parts_of_rest hr h
      rw [List.countP_cons_of_pos hr] at hone
      obtain ⟨hregular, htail⟩ := ih hrest (by omega) hmore
      -- the list has one slot for the rest, so what stands behind it is regular
      have hnone : more.find? Slot.isRest = none := by
        rw [List.find?_eq_none]
        have hzero : more.countP Slot.isRest = 0 := by omega
        exact List.countP_eq_zero.mp hzero
      rw [hnone] at htail
      refine ⟨?_, ?_⟩
      · rw [List.filter_cons_of_neg (by simp [hr])]
        exact hregular
      · rw [List.find?_cons_of_pos hr]
        refine ⟨⟨slot.nameAt i, s, i, .rest⟩, tail, ?_, tail_of_inner hin hs ht⟩
        rw [Parts.addRest, htail]
        rfl

theorem parts_from_counts {types : Registry} {i : Nat} {slots : List Slot} {parts : Parts}
    (h : partsFrom types i slots = .ok parts) :
    parts.regular.length = slots.countP (fun slot => !slot.isRest) ∧
      parts.rest.isSome = slots.any Slot.isRest := by
  induction slots generalizing i parts with
  | nil =>
    rw [partsFrom] at h
    cases h
    exact ⟨rfl, rfl⟩
  | cons slot more ih =>
    cases hr : slot.isRest with
    | false =>
      obtain ⟨s, rest, -, hrest, rfl⟩ := parts_of_regular hr h
      obtain ⟨hcount, hsome⟩ := ih hrest
      rw [List.countP_cons_of_pos (by simp [hr]), List.any_cons, hr, Bool.false_or]
      exact ⟨congrArg (· + 1) hcount, hsome⟩
    | true =>
      obtain ⟨s, tail, rest, -, -, hrest, rfl⟩ := parts_of_rest hr h
      rw [List.countP_cons_of_neg (by simp [hr]), List.any_cons, hr, Bool.true_or]
      refine ⟨(ih hrest).1, ?_⟩
      rw [Parts.addRest]
      cases rest.rest <;> rfl

theorem counts_of_build {types : Registry} {slots : List Slot} {form : ArgumentForm}
    (h : build types slots = .ok form) :
    form.arity = slots.countP (fun slot => !slot.isRest) ∧
      form.isVariadic = slots.any Slot.isRest := by
  obtain ⟨-, parts, hp, -, hregular, hrest⟩ := build_ok h
  unfold arity isVariadic
  rw [hregular, hrest, Option.isSome_map]
  exact parts_from_counts hp

def head (f : ArgumentForm) : Schema := Parts.head ⟨f.regular, none⟩

/-- A form is built for what its slots demand. -/
theorem build_demand {types : Registry} {slots : List Slot} {form : ArgumentForm}
    (h : build types slots = .ok form) :
    ∃ demand, Slot.demand? types slots = some demand ∧
      demand.regular = form.regular.map (·.schema) ∧ demand.tail.isSome = form.isVariadic ∧
      match demand.tail with
      | none => form.input = form.head
      | some t => Schema.concat form.head t = .ok form.input := by
  obtain ⟨hm, parts, hp, hi, hregular, hrest⟩ := build_ok h
  rw [Slot.misplaced?, Option.or_eq_none_iff] at hm
  have hone : slots.countP Slot.isRest ≤ 1 := by
    have hhere := hm.1
    unfold Slot.misplacedHere? at hhere
    split at hhere
    · cases hhere
    · omega
  obtain ⟨hschemas, htail⟩ := parts_from_ok hp hone hm.2
  have hhead : form.head = parts.head := by
    unfold head
    rw [hregular]
    rfl
  unfold Slot.demand? isVariadic
  rw [hschemas, hrest, hregular, hhead]
  unfold Parts.input at hi
  cases hf : slots.find? Slot.isRest with
  | none =>
    rw [hf] at htail
    rw [htail] at hi ⊢
    exact ⟨⟨_, none⟩, rfl, rfl, rfl, (Except.ok.inj hi).symm⟩
  | some slot =>
    rw [hf] at htail
    obtain ⟨b, t, hr, ht⟩ := htail
    rw [hr] at hi ⊢
    exact ⟨⟨_, some t⟩, congrArg (Option.map _) ht, rfl, rfl, hi⟩

theorem head_eq (form : ArgumentForm) :
    form.head = Schema.boundedArray (form.regular.map fun b => Schema.titled b.name b.schema)
      (.bool false) form.arity none := by
  unfold head Parts.head Schema.tuple
  rw [List.map_map, List.length_map]
  rfl

theorem input_of_build {types : Registry} {slots : List Slot} {form : ArgumentForm}
    (h : build types slots = .ok form) :
    ∃ elements others least most, form.input = Schema.boundedArray elements others least most := by
  obtain ⟨demand, -, -, -, hinput⟩ := build_demand h
  cases ht : demand.tail with
  | none =>
    rw [ht] at hinput
    exact ⟨_, _, _, _, hinput.trans (head_eq form)⟩
  | some t =>
    rw [ht] at hinput
    obtain ⟨first, second, least, most, -, -, -, -, -, hs⟩ := Schema.concat_ok hinput
    exact ⟨_, _, _, _, hs⟩

theorem keys_of_input {types : Registry} {slots : List Slot} {form : ArgumentForm}
    (h : build types slots = .ok form) : (Schema.keys form.input).Nodup := by
  obtain ⟨_, _, _, _, hinput⟩ := input_of_build h
  rw [hinput]
  exact Schema.nodup_bounded_array

theorem keys_of_tail {types : Registry} {slots : List Slot} {demand : Demand}
    (hd : Slot.demand? types slots = some demand)
    (hk : ∀ slot ∈ slots, ∀ s ∈ slot.schema? types, s.keys.Nodup) :
    ∀ t ∈ demand.tail, t.keys.Nodup := by
  intro t ht
  obtain ⟨regular, -, hd⟩ := Option.bind_eq_some_iff.mp hd
  cases hf : slots.find? Slot.isRest with
  | none =>
    rw [hf] at hd
    cases hd
    cases ht
  | some slot =>
    rw [hf] at hd
    obtain ⟨tail, htail, hd⟩ := Option.map_eq_some_iff.mp hd
    subst hd
    cases ht
    obtain ⟨s, hs, htail⟩ := Option.bind_eq_some_iff.mp htail
    split at htail
    · cases slot with
      | named =>
        cases htail
        decide
      | nested inner =>
        dsimp only [Slot.openTail?] at htail
        cases hb : build types inner with
        | error e => rw [hb] at htail; cases htail
        | ok form =>
          rw [hb] at htail
          cases htail
          exact keys_of_input hb
    · cases htail
      exact hk slot (List.mem_of_find?_eq_some hf) _ hs

theorem zip_titled {part : Schema → Json → Bool} {regular : List Binding} {args : List Json}
    (h : ∀ b ∈ regular, ∀ x, part (Schema.titled b.name b.schema) x = part b.schema x) :
    (∀ p ∈ (regular.map fun b => Schema.titled b.name b.schema).zip args,
        part p.1 p.2 = true) ↔
      ∀ (i : Nat) (s : Schema) (x : Json), (regular.map (·.schema))[i]? = some s →
        args[i]? = some x → part s x = true := by
  induction regular generalizing args with
  | nil => simp
  | cons b regular ih =>
    cases args with
    | nil => simp
    | cons x args =>
      rw [List.map_cons, List.zip_cons_cons, List.forall_mem_cons, h b List.mem_cons_self x,
        ih fun c hc => h c (List.mem_cons_of_mem _ hc)]
      constructor
      · rintro ⟨hx, h⟩ i s y hi hy
        cases i with
        | zero =>
          cases hi
          cases hy
          exact hx
        | succ i => exact h i s y hi hy
      · intro h
        exact ⟨h 0 b.schema x rfl rfl, fun i s y hi hy => h (i + 1) s y hi hy⟩

theorem places_of_titled {types : Registry} {slots : List Slot} {form : ArgumentForm}
    (h : build types slots = .ok form) {b : Binding} (hb : b ∈ form.regular) :
    Schema.titled b.name b.schema ∈ Json.places form.input := by
  obtain ⟨demand, -, -, -, hinput⟩ := build_demand h
  have hm : Schema.titled b.name b.schema ∈
      form.regular.map fun b => Schema.titled b.name b.schema := List.mem_map.mpr ⟨b, hb, rfl⟩
  cases ht : demand.tail with
  | none =>
    rw [ht] at hinput
    rw [hinput, head_eq]
    exact Schema.places_bounded_array (.inl hm)
  | some t =>
    rw [ht] at hinput
    obtain ⟨first, second, least, most, hf, -, -, -, -, hs⟩ := Schema.concat_ok hinput
    rw [head_eq, Schema.elements_bounded_array] at hf
    rw [hs, ← Option.some.inj hf]
    exact Schema.places_bounded_array (.inl (List.mem_append_left _ hm))

theorem places_of_regular {types : Registry} {slots : List Slot} {form : ArgumentForm}
    (h : build types slots = .ok form) {b : Binding} (hb : b ∈ form.regular) :
    b.schema ∈ Json.places form.input :=
  Json.places_trans (Json.places_of_entry List.mem_cons_self
    (Json.places_of_item List.mem_cons_self (Json.self_mem_places _))) _ (places_of_titled h hb)

theorem elements_of_head (form : ArgumentForm) : Schema.elements? form.head =
    some (form.regular.map fun b => Schema.titled b.name b.schema) := by
  rw [head_eq, Schema.elements_bounded_array]

section Accepts

variable {types : Registry} {slots : List Slot} {form : ArgumentForm} {demand : Demand}
  (h : build types slots = .ok form) (hd : Slot.demand? types slots = some demand)
  (hk : ∀ slot ∈ slots, ∀ s ∈ slot.schema? types, s.keys.Nodup)
  (hc : form.input.check = .ok ())

include h hd hk hc

/-- The input schema of a form accepts the argument lists that meet the demand, as its schemas are
read in it. -/
theorem accepts_read (hs : ∀ s ∈ demand.schemas, Schema.Settled form.input s) (args : List Json) :
    form.input.accepts (.arr args) = true ↔ demand.MetBy (Schema.acceptsIn form.input) args := by
  obtain ⟨found, hd', hregular, htail, hinput⟩ := build_demand h
  obtain rfl := Option.some.inj (hd.symm.trans hd')
  obtain ⟨hsregular, hstail⟩ := Demand.forall_schemas.mp hs
  have hlength : demand.regular.length = form.arity := by
    rw [hregular, List.length_map]
    rfl
  have hcount : (form.regular.map fun b => Schema.titled b.name b.schema).length = form.arity :=
    List.length_map _
  have hsettled (b : Binding) (hb : b ∈ form.regular) : Schema.Settled form.input b.schema :=
    hsregular b.schema (hregular ▸ List.mem_map_of_mem hb)
  have hsteady : ∀ e ∈ form.regular.map (fun b => Schema.titled b.name b.schema),
      Schema.Steady form.input e := by
    intro e he
    obtain ⟨b, hb, rfl⟩ := List.mem_map.mp he
    exact Schema.steady_titled (hsettled b hb) (places_of_regular h hb) b.name
  have htitled (b : Binding) (hb : b ∈ form.regular) (x : Json) :
      Schema.acceptsIn form.input (Schema.titled b.name b.schema) x =
        Schema.acceptsIn form.input b.schema x :=
    Schema.accepts_in_titled (hsettled b hb) (places_of_regular h hb) b.name x
  unfold Demand.MetBy
  rw [hlength, hregular, ← zip_titled htitled]
  cases ht : demand.tail with
  | none =>
    rw [ht] at hinput
    have hothers : ∀ e, e ∈ form.regular.map (fun b => Schema.titled b.name b.schema) ∨
        e = .bool false → Schema.Steady form.input e := by
      rintro e (he | rfl)
      · exact hsteady e he
      · exact Schema.steady_of_not_obj fun _ he => nomatch he
    rw [hinput.trans (head_eq form)] at hothers ⊢
    rw [Schema.accepts_bounded_array (fun _ he => by cases he) hothers, ← hcount,
      Schema.fits_closed fun _ => rfl]
  | some t =>
    rw [ht] at hinput
    rw [Schema.accepts_concat hinput (elements_of_head form) hsteady (hstail t ht)
      (keys_of_tail hd hk t ht) (Schema.items_of_concat hinput hc), hcount]
    constructor
    · rintro ⟨hle, hzip, hdrop⟩
      exact ⟨hzip, hle, hdrop⟩
    · rintro ⟨hzip, hle, hdrop⟩
      exact ⟨hle, hzip, hdrop⟩

omit hk hc in
theorem accepts_in_regular {s : Schema} (hs : s ∈ demand.regular)
    (hsettled : Schema.Settled form.input s) (hkept : Schema.Kept s form.input s) (v : Json) :
    Schema.acceptsIn form.input s v = s.accepts v := by
  obtain ⟨found, hd', hregular, -, -⟩ := build_demand h
  obtain rfl := Option.some.inj (hd.symm.trans hd')
  rw [hregular] at hs
  obtain ⟨b, hb, rfl⟩ := List.mem_map.mp hs
  exact Schema.accepts_in_kept hsettled.guarded hkept.symm (places_of_regular h hb)
    (Json.self_mem_places _) v

/-- The input schema of a form accepts the argument lists that meet the demand, if the schemas of
the demand refer to the same in it as standing alone. -/
theorem accepts_kept (hs : ∀ s ∈ demand.schemas, Schema.Settled form.input s)
    (hkept : ∀ s ∈ demand.schemas, Schema.Kept s form.input s) (args : List Json) :
    form.input.accepts (.arr args) = true ↔ demand.Met args := by
  obtain ⟨hsregular, hstail⟩ := Demand.forall_schemas.mp hs
  obtain ⟨hkregular, hktail⟩ := Demand.forall_schemas.mp hkept
  rw [accepts_read h hd hk hc hs, ← Demand.met_by_accepts]
  refine Demand.met_by_congr (fun s hm v => ?_) (fun t ht xs => ?_) args
  · exact accepts_in_regular h hd hm (hsregular s hm) (hkregular s hm) v
  · obtain ⟨found, hd', -, -, hinput⟩ := build_demand h
    obtain rfl := Option.some.inj (hd.symm.trans hd')
    rw [Option.mem_def.mp ht] at hinput
    obtain ⟨_, second, _, _, -, helements, -, -, -, -⟩ := Schema.concat_ok hinput
    obtain ⟨entries, rfl, -, -⟩ := Schema.sequence_of_elements helements
    exact Schema.accepts_in_sequence_kept (Schema.movable_of_concat hinput (keys_of_tail hd hk _ ht)
      (Schema.items_of_concat hinput hc)) (hstail _ ht) (hktail _ ht)
      (fun s hi => Schema.places_of_concat hinput hi) xs

theorem accepts_demand (hs : demand.SelfContained) (args : List Json) :
    form.input.accepts (.arr args) = true ↔ demand.Met args := by
  have hfaithful (s : Schema) (hm : s ∈ demand.schemas) : Schema.Faithful form.input s :=
    Schema.faithful_of_self_contained (Demand.forall_schemas.mpr hs s hm)
  exact accepts_kept h hd hk hc (fun s hm => (hfaithful s hm).settled)
    (fun s hm => (hfaithful s hm).kept) args

end Accepts

end ArgumentForm

end CallContract
