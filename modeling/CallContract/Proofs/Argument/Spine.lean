import CallContract.Proofs.Argument.Form

/-!
# Forms laid out flat

The input schema of a form is found by building the forms of nested lists and
appending one after the other. It is the array that can be read off the list at
once: the regular slots of the list, of the nested list that stands for its
rest, of the nested list that stands for the rest of that one, and so on; and
behind them what the last of these lists ends in.
-/

set_option autoImplicit false

namespace CallContract

inductive Ending where
  | closed
  | unshaped
  | sequence (s : Schema)

namespace Ending

def declared? : Ending → Option Schema
  | .sequence s => some s
  | _ => none

def prefixItems (e : Ending) : List Schema :=
  match e.declared?.bind (·.keyword? "prefixItems") with
  | some (.arr items) => items
  | _ => []

def bound? (e : Ending) (keyword : String) : Option Nat :=
  match e.declared?.bind (·.keyword? keyword) with
  | some (.num (.int n)) => some n.toNat
  | _ => none

def items : Ending → Schema
  | .closed => .bool false
  | .unshaped => .bool true
  | .sequence s => (s.keyword? "items").getD (.bool true)

end Ending

/-- The names and schemas of the positional arguments, and what they end in. -/
structure Spine where
  slots : List (String × Schema)
  ending : Ending

namespace Spine

def behind (first : List (String × Schema)) (spine : Spine) : Spine :=
  ⟨first ++ spine.slots, spine.ending⟩

def elements (spine : Spine) : List Schema :=
  spine.slots.map (fun (name, s) => .obj [("allOf", .arr [s]), ("title", .str name)])
    ++ spine.ending.prefixItems

def least (spine : Spine) : Nat := spine.slots.length + (spine.ending.bound? "minItems").getD 0

def most? (spine : Spine) : Option Nat :=
  (spine.ending.bound? "maxItems").map (spine.slots.length + ·)

def schema (spine : Spine) : Schema :=
  .obj ([("items", spine.ending.items)]
    ++ (match spine.most? with | some n => [("maxItems", .natural n)] | none => [])
    ++ [("minItems", .natural spine.least)]
    ++ (if spine.elements = [] then [] else [("prefixItems", .arr spine.elements)])
    ++ [("type", .str "array")])

end Spine

namespace Slot

def spineFrom (types : Registry) : Nat → List Slot → Option Spine
  | _, [] => some ⟨[], .closed⟩
  | i, .named name a .regular :: more => do
    let s ← schema? types (.named name a .regular)
    let spine ← spineFrom types (i + 1) more
    some (spine.behind [(name, s)])
  | _, .named name a .rest :: _ => do
    let s ← schema? types (.named name a .rest)
    some ⟨[], if s.isAny then .unshaped else .sequence s⟩
  | i, .nested inner a .regular :: more => do
    let s ← schema? types (.nested inner a .regular)
    let spine ← spineFrom types (i + 1) more
    some (spine.behind [("arg" ++ toString i, s)])
  | _, .nested inner a .rest :: _ => do
    let s ← schema? types (.nested inner a .rest)
    if s.isAny then spineFrom types 0 inner else some ⟨[], .sequence s⟩

def spine? (types : Registry) (slots : List Slot) : Option Spine := spineFrom types 0 slots

def bindingAt (types : Registry) : Slot × Nat → Option Binding
  | (slot, i) => (slot.schema? types).map fun s => ⟨slot.nameAt i, s, i, slot.role⟩

theorem spine_from_regular (types : Registry) (i : Nat) {slot : Slot} (h : slot.isRest = false)
    (more : List Slot) : spineFrom types i (slot :: more) = (do
      let s ← slot.schema? types
      let spine ← spineFrom types (i + 1) more
      some (spine.behind [(slot.nameAt i, s)])) := by
  cases slot with
  | named name typing role =>
    cases role with
    | regular => rw [spineFrom]; rfl
    | rest => cases h
  | nested slots typing role =>
    cases role with
    | regular => rw [spineFrom]; rfl
    | rest => cases h

end Slot

namespace Schema

structure Spliceable (t : Schema) : Prop where
  isSequence : t.isSequence = true
  prefixItems : ∀ v, t.keyword? "prefixItems" = some v → ∃ items, v = .arr items
  bounds : ∀ key ∈ ["minItems", "maxItems"], ∀ v, t.keyword? key = some v → ∃ n, v = .natural n

theorem spliceable_of_concat {head tail s : Schema} (h : concat head tail = .ok s) :
    tail.Spliceable := by
  obtain ⟨_, second, least, most, -, hs, -, hleast, hmost, -⟩ := concat_ok h
  have hbound {key : String} {count : Option Nat} (hc : countOf tail key = .ok count) (v : Json)
      (hv : tail.keyword? key = some v) : ∃ n, v = .natural n := by
    rw [natural_of_count_of hc] at hv
    obtain ⟨n, -, rfl⟩ := Option.map_eq_some_iff.mp hv
    exact ⟨n, rfl⟩
  obtain ⟨hsequence, hprefix⟩ := elements_ok hs
  refine ⟨hsequence, fun v hv => ?_, fun key hkey => ?_⟩
  · rcases hprefix with ⟨hk, -⟩ | hk <;> rw [hk] at hv <;> cases hv
    exact ⟨second, rfl⟩
  · rcases List.mem_cons.mp hkey with rfl | hkey
    · exact hbound hleast
    · obtain rfl := List.mem_singleton.mp hkey
      exact hbound hmost

end Schema

namespace Spine

open Schema

theorem schema_eq (spine : Spine) : spine.schema =
    boundedArray spine.elements spine.ending.items spine.least spine.most? := by
  unfold schema
  cases spine.elements <;> rfl

def Sound (spine : Spine) : Prop := ∀ s, spine.ending = .sequence s → s.Spliceable

/-- What is read of a tail when it is spliced is what a spine says. -/
structure ReadFrom (spine : Spine) (tail : Schema) : Prop where
  elements : ∀ found, tail.elements? = some found → found = spine.elements
  least : ∀ count, countOf tail "minItems" = .ok count → count.getD 0 = spine.least
  most : ∀ count, countOf tail "maxItems" = .ok count → count = spine.most?
  items : (tail.keyword? "items").getD any = spine.ending.items
  sound : tail.Spliceable → spine.Sound

theorem read_from_unshaped : (⟨[], .unshaped⟩ : Spine).ReadFrom (sequenceOf any) := by
  refine ⟨fun found h => ?_, fun count h => ?_, fun count h => ?_, rfl, fun _ s hs => nomatch hs⟩
  · cases h
    rfl
  · cases h
    rfl
  · cases h
    rfl

theorem bound_of_count_of {t : Schema} {key : String} {count : Option Nat}
    (h : countOf t key = .ok count) : (Ending.sequence t).bound? key = count := by
  unfold Ending.bound? Ending.declared?
  rw [Option.bind_some, natural_of_count_of h]
  cases count <;> rfl

theorem read_from_declared (t : Schema) : (⟨[], .sequence t⟩ : Spine).ReadFrom t := by
  refine ⟨fun found h => ?_, fun count h => ?_, fun count h => ?_, rfl, ?_⟩
  · unfold Spine.elements Ending.prefixItems Ending.declared?
    rw [Option.bind_some]
    rcases (elements_ok h).2 with ⟨hk, rfl⟩ | hk <;> rw [hk] <;> rfl
  · simp only [Spine.least, bound_of_count_of h, List.length_nil, Nat.zero_add]
  · simp [most?, bound_of_count_of h]
  · rintro ht s hs
    cases hs
    exact ht

theorem keyword_least (spine : Spine) :
    spine.schema.keyword? "minItems" = some (.natural spine.least) := by
  rw [schema_eq]
  cases spine.most? <;> cases spine.elements <;> rfl

theorem keyword_most (spine : Spine) :
    spine.schema.keyword? "maxItems" = spine.most?.map .natural := by
  rw [schema_eq]
  cases spine.most? <;> cases spine.elements <;> rfl

/-- The array of a spine is read as the spine that it is made of. -/
theorem read_from_schema {spine : Spine} (hs : spine.Sound) : spine.ReadFrom spine.schema := by
  refine ⟨fun found h => ?_, fun count h => ?_, fun count h => ?_, ?_, fun _ => hs⟩
  · rw [schema_eq, elements_bounded_array] at h
    exact (Option.some.inj h).symm
  · have hk := natural_of_count_of h
    rw [keyword_least] at hk
    cases count with
    | none => cases hk
    | some n =>
      have hn : spine.least = n := by simpa [Json.natural] using hk
      exact hn.symm
  · have hk := natural_of_count_of h
    rw [keyword_most] at hk
    have hinjective : Function.Injective Json.natural := fun m n hmn => by
      simpa [Json.natural] using hmn
    exact (Option.map_injective hinjective hk).symm
  · rw [schema_eq]
    cases spine.most? <;> cases spine.elements <;> rfl

theorem elements_closed (first : List (String × Schema)) :
    (⟨first, .closed⟩ : Spine).elements = first.map fun (name, s) => titled name s :=
  List.append_nil _

theorem elements_behind (spine : Spine) (first : List (String × Schema)) :
    (spine.behind first).elements = (⟨first, .closed⟩ : Spine).elements ++ spine.elements := by
  rw [elements_closed, elements, elements, behind, List.map_append, List.append_assoc]
  rfl

theorem least_behind (spine : Spine) (first : List (String × Schema)) :
    (spine.behind first).least = first.length + spine.least := by
  rw [least, least, behind, List.length_append, Nat.add_assoc]

theorem most_behind (spine : Spine) (first : List (String × Schema)) :
    (spine.behind first).most? = spine.most?.map (first.length + ·) := by
  simp only [most?, behind, List.length_append, Option.map_map, Function.comp_def, Nat.add_assoc]

/-- Splicing a tail behind a closed list puts the slots of the list before those of the tail. -/
theorem schema_of_concat {first : List (String × Schema)} {spine : Spine} {tail s : Schema}
    (ht : spine.ReadFrom tail) (h : concat (⟨first, .closed⟩ : Spine).schema tail = .ok s) :
    s = (spine.behind first).schema ∧ (spine.behind first).Sound := by
  obtain ⟨front, back, least, most, hfront, hback, -, hleast, hmost, rfl⟩ := concat_ok h
  refine ⟨?_, ht.sound (spliceable_of_concat h)⟩
  rw [schema_eq, elements_bounded_array] at hfront
  obtain rfl := Option.some.inj hfront
  have hcount : (⟨first, .closed⟩ : Spine).elements.length = first.length := by
    rw [elements_closed, List.length_map]
  rw [ht.elements _ hback, ht.least _ hleast, ht.most _ hmost, ht.items, schema_eq, hcount,
    elements_behind, least_behind, most_behind]
  rfl

end Spine

namespace ArgumentForm

open Slot

variable {types : Registry} {slots : List Slot}

def entry (b : Binding) : String × Schema := (b.name, b.schema)

theorem head_schema (p : Parts) :
    p.head = (⟨p.regular.map entry, .closed⟩ : Spine).schema := by
  have hhead := head_eq ⟨p.regular, none, Schema.any⟩
  rw [Spine.schema_eq, Spine.elements_closed, List.map_map, Spine.least, Spine.most?,
    List.length_map]
  exact hhead

def Traced (types : Registry) (i : Nat) (slots : List Slot) (p : Parts) : Prop :=
  ∃ spine : Spine, spineFrom types i slots = some (spine.behind (p.regular.map entry)) ∧
    match p.rest with
    | none => spine = ⟨[], .closed⟩
    | some (_, tail) => spine.ReadFrom tail

theorem Traced.input {i : Nat} {p : Parts} {s : Schema} (h : Traced types i slots p)
    (hs : p.input = .ok s) :
    ∃ spine, spineFrom types i slots = some spine ∧ s = spine.schema ∧ spine.Sound := by
  obtain ⟨spine, hspine, hrest⟩ := h
  refine ⟨_, hspine, ?_⟩
  unfold Parts.input at hs
  split at hs
  · rename_i hr
    rw [hr] at hrest
    subst hrest
    cases hs
    refine ⟨?_, fun s hs => nomatch hs⟩
    rw [head_schema, Spine.behind, List.append_nil]
  · rename_i b tail hr
    rw [hr] at hrest
    rw [head_schema] at hs
    exact Spine.schema_of_concat hrest hs

theorem traced_regular {i : Nat} {slot : Slot} {more : List Slot} {parts : Parts}
    (hr : slot.isRest = false) (h : partsFrom types i (slot :: more) = .ok parts)
    (ih : ∀ rest, partsFrom types (i + 1) more = .ok rest → Traced types (i + 1) more rest) :
    Traced types i (slot :: more) parts := by
  obtain ⟨s, rest, hs, hrest, rfl⟩ := parts_of_regular hr h
  obtain ⟨spine, hspine, htail⟩ := ih rest hrest
  refine ⟨spine, ?_, htail⟩
  rw [spine_from_regular types i hr, hs, hspine]
  rfl

theorem parts_of_sole_rest {i : Nat} {slot : Slot} {parts : Parts} (hr : slot.isRest = true)
    (h : partsFrom types i [slot] = .ok parts) :
    ∃ s tail, slot.schema? types = some s ∧ tailOf s (inner types slot) = .ok tail ∧
      parts = ⟨[], some (⟨slot.nameAt i, s, i, .rest⟩, tail)⟩ := by
  obtain ⟨s, tail, rest, hs, ht, hrest, rfl⟩ := parts_of_rest hr h
  rw [partsFrom] at hrest
  cases hrest
  exact ⟨s, tail, hs, ht, rfl⟩

/-- The spine of a list is the one that its parts are made from, nested lists first. -/
theorem traced_of_parts {i : Nat} {parts : Parts} (h : partsFrom types i slots = .ok parts)
    (hhere : misplacedHere? slots = none) (hin : misplacedInside? slots = none) :
    Traced types i slots parts := by
  induction i, slots using partsFrom.induct generalizing parts with
  | case1 i =>
    rw [partsFrom] at h
    cases h
    exact ⟨⟨[], .closed⟩, by rw [spineFrom]; rfl, rfl⟩
  | case2 i name typing more ih =>
    exact traced_regular rfl h fun rest hrest => ih hrest (misplaced_here_cons hhere).2
      (misplaced_inside_cons hin).1
  | case3 i name typing more ih =>
    -- nothing stands behind a slot for the rest
    obtain rfl := (misplaced_here_cons hhere).1 rfl
    obtain ⟨s, tail, hs, ht, rfl⟩ := parts_of_sole_rest rfl h
    rcases tail_of_ok ht with ⟨hany, ht⟩ | ⟨hany, -, rfl⟩
    · cases ht
      refine ⟨⟨[], .unshaped⟩, ?_, Spine.read_from_unshaped⟩
      simp [spineFrom, hs, hany, Spine.behind]
    · refine ⟨⟨[], .sequence tail⟩, ?_, Spine.read_from_declared tail⟩
      simp [spineFrom, hs, hany, Spine.behind]
  | case4 i inner typing more ih =>
    exact traced_regular rfl h fun rest hrest => ih hrest (misplaced_here_cons hhere).2
      (misplaced_inside_cons hin).1
  | case5 i slots typing more ihin ih =>
    obtain rfl := (misplaced_here_cons hhere).1 rfl
    obtain ⟨s, tail, hs, ht, rfl⟩ := parts_of_sole_rest rfl h
    rcases tail_of_ok ht with ⟨hany, ht⟩ | ⟨hany, -, rfl⟩
    · obtain ⟨hhere, hinside⟩ := (misplaced_inside_cons hin).2 slots typing .rest rfl
      dsimp only [inner] at ht
      split at ht
      · -- the nested list has a form of its own, whose array is read back as its spine
        rename_i nested hnested
        obtain ⟨spine, hspine, rfl, hsound⟩ :=
          (ihin hnested hhere hinside).input (map_error_ok.mp ht)
        refine ⟨spine, ?_, Spine.read_from_schema hsound⟩
        simp [spineFrom, hs, hany, hspine, Spine.behind]
      · cases ht
    · refine ⟨⟨[], .sequence tail⟩, ?_, Spine.read_from_declared tail⟩
      simp [spineFrom, hs, hany, Spine.behind]

theorem bindings_of_parts {i : Nat} {parts : Parts} (h : partsFrom types i slots = .ok parts)
    (hhere : misplacedHere? slots = none) :
    ((slots.zipIdx i).filter fun p => !p.1.isRest).mapM (bindingAt types) = some parts.regular ∧
      ((slots.zipIdx i).filter fun p => p.1.isRest).mapM (bindingAt types) =
        some (parts.rest.map (·.1)).toList := by
  induction slots generalizing i parts with
  | nil =>
    rw [partsFrom] at h
    cases h
    exact ⟨rfl, rfl⟩
  | cons slot more ih =>
    rw [List.zipIdx_cons]
    cases hr : slot.isRest with
    | false =>
      have hrole : slot.role = .regular := by
        unfold isRest at hr
        cases hs : slot.role with
        | regular => rfl
        | rest => rw [hs] at hr; cases hr
      obtain ⟨s, rest, hs, hrest, rfl⟩ := parts_of_regular hr h
      obtain ⟨hregular, htail⟩ := ih hrest (misplaced_here_cons hhere).2
      refine ⟨?_, ?_⟩
      · rw [List.filter_cons_of_pos (by simp [hr]), List.mapM_cons, hregular, bindingAt, hs, hrole]
        rfl
      · rw [List.filter_cons_of_neg (by simp [hr])]
        exact htail
    | true =>
      have hrole : slot.role = .rest := beq_iff_eq.mp hr
      obtain rfl := (misplaced_here_cons hhere).1 hr
      obtain ⟨s, tail, hs, -, rfl⟩ := parts_of_sole_rest hr h
      refine ⟨?_, ?_⟩
      · rw [List.filter_cons_of_neg (by simp [hr])]
        rfl
      · rw [List.filter_cons_of_pos (by simp [hr]), List.mapM_cons, bindingAt, hs, hrole]
        rfl

/-- The input schema of a form is the array of the spine of its slots. The regular arguments are the
regular slots of the list itself, in order and with their positions, and the rest is its slot for
the rest. -/
theorem build_flat {form : ArgumentForm} (h : build types slots = .ok form) :
    (∃ spine, spine? types slots = some spine ∧ form.input = spine.schema ∧ spine.Sound) ∧
    (slots.zipIdx.filter fun p => !p.1.isRest).mapM (bindingAt types) = some form.regular ∧
    (slots.zipIdx.filter fun p => p.1.isRest).mapM (bindingAt types) = some form.rest.toList := by
  obtain ⟨hm, parts, hp, hi, hregular, hrest⟩ := build_ok h
  rw [misplaced?, Option.or_eq_none_iff] at hm
  rw [hregular, hrest]
  exact ⟨(traced_of_parts hp hm.1 hm.2).input hi, bindings_of_parts hp hm.1⟩

def pairs : Schema :=
  .obj [("items", .obj [("type", .str "integer")]), ("maxItems", .natural 3),
    ("minItems", .natural 1), ("prefixItems", .arr [.obj [("type", .str "string")]]),
    ("title", .str "pairs"), ("type", .str "array")]

def deepSlots : List Slot :=
  [.nested [] .none .regular, .named "x" (.schema (.obj [("type", .str "integer")])) .regular,
    .nested [.named "y" .none .regular,
      .nested [.nested [] .none .regular, .named "pairs" (.schema pairs) .rest] .none .rest]
      .none .rest]

def deepSpine : Spine :=
  ⟨[("arg0", .bool true), ("x", .obj [("type", .str "integer")]), ("y", .bool true),
    ("arg0", .bool true)], .sequence pairs⟩

theorem deep_slots_spine : spine? .empty deepSlots = some deepSpine := by cbv

theorem build_flat_deep : ∃ form, build .empty deepSlots = .ok form ∧ form.arity = 2 ∧
    form.input = .obj [("items", .obj [("type", .str "integer")]), ("maxItems", .natural 7),
      ("minItems", .natural 5),
      ("prefixItems", .arr [
        .obj [("allOf", .arr [.bool true]), ("title", .str "arg0")],
        .obj [("allOf", .arr [.obj [("type", .str "integer")]]), ("title", .str "x")],
        .obj [("allOf", .arr [.bool true]), ("title", .str "y")],
        .obj [("allOf", .arr [.bool true]), ("title", .str "arg0")],
        .obj [("type", .str "string")]]),
      ("type", .str "array")] := by
  have hok : (build .empty deepSlots).toOption.isSome = true := by cbv
  cases hform : build .empty deepSlots with
  | error e =>
    rw [hform] at hok
    cases hok
  | ok form =>
    obtain ⟨⟨spine, hspine, hinput, -⟩, -, -⟩ := build_flat hform
    rw [deep_slots_spine] at hspine
    cases hspine
    exact ⟨form, rfl, (counts_of_build hform).1, hinput⟩

end ArgumentForm

end CallContract
