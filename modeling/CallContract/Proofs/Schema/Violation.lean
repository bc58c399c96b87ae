import CallContract.Proofs.Json.Pointer
import CallContract.Proofs.Schema.Keyword

/-!
# What violations say

To explain a value a keyword visits some of its parts, each with the value or
with something inside it, and moves what they say out to its own place; what it
says by itself is about the value. So there is a violation exactly if the value
is not accepted, though that is decided by a traversal of its own, and every
violation points at a part of the value.
-/

set_option autoImplicit false

namespace CallContract

/-- A part that is asked to explain a value, and the ways that lead to both. -/
structure Visit where
  spot : Spot
  value : Json
  schemaAt : Pointer
  instanceAt : Pointer

def Visit.report (explain : Spot → Json → List Violation) (w : Visit) : List Violation :=
  (explain w.spot w.value).map (.within w.schemaAt w.instanceAt)

namespace Keyword

open Schema

def spots (target? : String → Option Spot) : Keyword Spot → List Spot
  | .reference target => (target? target).toList
  | k => k.parts

theorem part_mem_spots {target? : String → Option Spot} {k : Keyword Spot} {s : Spot}
    (h : s ∈ k.parts) : s ∈ k.spots target? := by
  unfold spots
  split
  · cases h
  · exact h

def visits (target? : String → Option Spot) (part : Spot → Json → Bool) (k : Keyword Spot)
    (v : Json) : List Visit :=
  let name := Step.key k.name
  match k, v with
  | .prefixItems schemas, .arr xs | .itemList schemas, .arr xs =>
    (positions xs).flatMap fun (i, x) =>
      schemas[i]?.toList.map fun s => ⟨s, x, [name, .index i], [.index i]⟩
  | .items skip s, .arr xs =>
    ((positions xs).drop skip).map fun (i, x) => ⟨s, x, [name], [.index i]⟩
  | .properties named, .obj entries =>
    named.flatMap fun (key, s) =>
      (entries.lookup key).toList.map fun x => ⟨s, x, [name, .key key], [.key key]⟩
  | .onlyProperties named, .obj entries =>
    entries.flatMap fun (key, x) =>
      (named.lookup key).toList.map fun s => ⟨s, x, [.key "properties", .key key], [.key key]⟩
  | .otherProperties named other, .obj entries =>
    entries.map fun (key, x) => match named.lookup key with
      | some s => ⟨s, x, [.key "properties", .key key], [.key key]⟩
      | none => ⟨other, x, [name], [.key key]⟩
  | .propertyNames s, .obj entries => match s.schema with
    | .bool false => []
    | _ => entries.map fun (key, _) => ⟨s, .str key, [name], []⟩
  | .reference target, v => (target? target).toList.map fun s => ⟨s, v, [name], []⟩
  | .allOf schemas, v => schemas.mapIdx fun i s => ⟨s, v, [name, .index i], []⟩
  | .branch test yes no, v =>
    if part test v then yes.toList.map fun s => ⟨s, v, [.key "then"], []⟩
    else no.toList.map fun s => ⟨s, v, [.key "else"], []⟩
  | _, _ => []

def ownViolations (target? : String → Option Spot) (part : Spot → Json → Bool)
    (k : Keyword Spot) (v : Json) : List Violation :=
  match k, v with
  | .prefixItems _, _ | .itemList _, _ | .items _ _, _ => []
  | .properties _, _ | .otherProperties _ _, _ => []
  | .reference _, _ | .allOf _, _ | .branch _ _ _, _ => []
  | .onlyProperties named, .obj entries =>
    let other := entries.filter fun (key, _) => (named.lookup key).isNone
    ifNot other.isEmpty (k.fails v (.unexpected (other.map (·.1))))
  | .propertyNames s, .obj entries => match s.schema with
    | .bool false => ifNot entries.isEmpty (k.fails v .refused)
    | _ => []
  | k, v => k.violations target? part (fun _ _ => []) v

variable {target? : String → Option Spot} {part part' : Spot → Json → Bool}
  {explain explain' : Spot → Json → List Violation} {k : Keyword Spot} {v : Json}

theorem flat_map_visits {α : Type} {xs : List α} {f : α → List Visit} {said : α → List Violation}
    (h : ∀ x, said x = (f x).flatMap (Visit.report explain)) :
    xs.flatMap said = (xs.flatMap f).flatMap (Visit.report explain) := by
  rw [List.flatMap_assoc]
  exact congrArg (xs.flatMap ·) (funext h)

theorem map_visits {α : Type} {xs : List α} {f : α → Visit} {said : α → List Violation}
    (h : ∀ x, said x = (f x).report explain) :
    xs.flatMap said = (xs.map f).flatMap (Visit.report explain) := by
  rw [List.flatMap_map]
  exact congrArg (xs.flatMap ·) (funext h)

/-- The violations are what is said at the visits, and then what the keyword says itself. -/
theorem violations_visits : k.violations target? part explain v =
    (k.visits target? part v).flatMap (Visit.report explain) ++
      k.ownViolations target? part v := by
  cases k with
  | prefixItems schemas | itemList schemas =>
    cases v with
    | arr xs =>
      rw [ownViolations, List.append_nil]
      apply flat_map_visits
      rintro ⟨i, x⟩
      dsimp only
      cases schemas[i]? <;> simp [Visit.report]
    | _ => rfl
  | items skip s =>
    cases v with
    | arr xs =>
      rw [ownViolations, List.append_nil]
      exact map_visits fun _ => rfl
    | _ => rfl
  | properties named =>
    cases v with
    | obj entries =>
      rw [ownViolations, List.append_nil]
      apply flat_map_visits
      rintro ⟨key, s⟩
      dsimp only
      cases entries.lookup key <;> simp [Visit.report]
    | _ => rfl
  | onlyProperties named =>
    cases v with
    | obj entries =>
      rw [ownViolations, violations]
      congr 1
      apply flat_map_visits
      rintro ⟨key, x⟩
      dsimp only
      cases named.lookup key <;> simp [Visit.report]
    | _ => rfl
  | otherProperties named other =>
    cases v with
    | obj entries =>
      rw [ownViolations, List.append_nil]
      apply map_visits
      rintro ⟨key, x⟩
      dsimp only
      cases named.lookup key <;> rfl
    | _ => rfl
  | propertyNames s =>
    cases v with
    | obj entries =>
      obtain ⟨schema, met⟩ := s
      cases schema with
      | bool b =>
        cases b with
        | false => rfl
        | true =>
          rw [ownViolations, List.append_nil]
          exact map_visits fun _ => rfl
      | _ =>
        rw [ownViolations, List.append_nil]
        exact map_visits fun _ => rfl
    | _ => rfl
  | reference target =>
    unfold ownViolations violations visits
    dsimp only
    cases target? target <;> simp [Visit.report]
  | allOf schemas =>
    unfold ownViolations violations visits
    dsimp only
    rw [List.append_nil, List.mapIdx_eq_zipIdx_map, List.mapIdx_eq_zipIdx_map]
    exact map_visits fun _ => rfl
  | branch test yes no =>
    unfold ownViolations violations visits
    dsimp only
    cases part test v with
    | true => cases yes <;> simp [Visit.report]
    | false => cases no <;> simp [Visit.report]
  | _ => cases v <;> rfl

theorem mem_if_not {holds : Bool} {vs : List Violation} {w : Violation} (h : w ∈ ifNot holds vs) :
    w ∈ vs := by
  unfold ifNot at h
  split at h
  · cases h
  · exact h

theorem if_not_nil {holds : Bool} {vs : List Violation} (h : vs ≠ []) :
    ifNot holds vs = [] ↔ holds = true := by
  unfold ifNot
  cases holds <;> simp [h]

theorem fails_ne_nil {value : Json} {failure : Failure} : k.fails value failure ≠ [] :=
  List.cons_ne_nil _ _

theorem mem_fails {value : Json} {failure : Failure} {w : Violation}
    (h : w ∈ k.fails value failure) : w.instanceAt = [] := by
  rw [List.mem_singleton.mp h]

theorem instance_at_own {w : Violation} (h : w ∈ k.ownViolations target? part v) :
    w.instanceAt = [] := by
  cases k with
  | pattern source =>
    cases v with
    | str s =>
      obtain ⟨failure, -, hw⟩ := List.mem_flatMap.mp h
      exact mem_fails hw
    | _ => cases h
  | required names =>
    cases v with
    | obj entries =>
      obtain ⟨name, -, hw⟩ := List.mem_flatMap.mp h
      exact mem_fails hw
    | _ => cases h
  | dependentRequired needs =>
    cases v with
    | obj entries =>
      obtain ⟨⟨key, names⟩, -, hw⟩ := List.mem_flatMap.mp h
      dsimp only at hw
      split at hw
      · obtain ⟨name, -, hw⟩ := List.mem_flatMap.mp hw
        exact mem_fails hw
      · cases hw
    | _ => cases h
  | noProperties =>
    cases v with
    | obj entries =>
      cases entries with
      | nil => cases h
      | cons entry rest => exact mem_fails h
    | _ => cases h
  | onlyProperties named =>
    cases v with
    | obj entries => exact mem_fails (mem_if_not h)
    | _ => cases h
  | propertyNames s =>
    cases v with
    | obj entries =>
      unfold ownViolations at h
      dsimp only at h
      split at h
      · exact mem_fails (mem_if_not h)
      · cases h
    | _ => cases h
  | prefixItems _ | itemList _ | items _ _ | properties _ | otherProperties _ _ | reference _
  | allOf _ | branch _ _ _ => cases h
  | _ => exact mem_fails (mem_if_not h)

structure Follows (target? : String → Option Spot) (k : Keyword Spot) (v : Json) (w : Visit) :
    Prop where
  spot : w.spot ∈ k.spots target?
  value : w.value ∈ k.asked v
  way : ∀ {p : Pointer} {x : Json}, Json.Way w.value p x → ∃ y, Json.Way v (w.instanceAt ++ p) y

theorem mem_positions {xs : List Json} {i : Nat} {x : Json} :
    (i, x) ∈ positions xs ↔ xs[i]? = some x := by
  unfold positions
  rw [List.mem_mapIdx, List.getElem?_eq_some_iff]
  constructor
  · rintro ⟨j, hj, h⟩
    cases h
    exact ⟨hj, rfl⟩
  · rintro ⟨hi, rfl⟩
    exact ⟨i, hi, rfl⟩

theorem follows_here {s : Spot} {schemaAt : Pointer} (hs : s ∈ k.spots target?)
    (hv : v ∈ k.asked v) : Follows target? k v ⟨s, v, schemaAt, []⟩ :=
  ⟨hs, hv, fun h => ⟨_, h⟩⟩

theorem follows_item {s : Spot} {xs : List Json} {i : Nat} {x : Json} {schemaAt : Pointer}
    (hs : s ∈ k.spots target?) (hk : k.inPlace = false) (hx : xs[i]? = some x) :
    Follows target? k (.arr xs) ⟨s, x, schemaAt, [.index i]⟩ := by
  refine ⟨hs, ?_, fun h => ⟨_, .item hx h⟩⟩
  rw [asked, hk]
  exact List.mem_of_getElem? hx

theorem follows_entry {s : Spot} {entries : Entries} {key : String} {x : Json}
    {schemaAt : Pointer} (hs : s ∈ k.spots target?) (hk : k.inPlace = false)
    (hx : (key, x) ∈ entries) :
    Follows target? k (.obj entries) ⟨s, x, schemaAt, [.key key]⟩ := by
  refine ⟨hs, ?_, fun h => ⟨_, .entry hx h⟩⟩
  rw [asked, hk]
  exact Json.entry_mem_inside hx

theorem visits_follow {w : Visit} (h : w ∈ k.visits target? part v) : Follows target? k v w := by
  cases k with
  | prefixItems schemas | itemList schemas =>
    cases v with
    | arr xs =>
      obtain ⟨⟨i, x⟩, hx, hw⟩ := List.mem_flatMap.mp h
      obtain ⟨s, hs, rfl⟩ := List.mem_map.mp hw
      exact follows_item (List.mem_of_getElem? (Option.mem_toList.mp hs)) rfl (mem_positions.mp hx)
    | _ => cases h
  | items skip s =>
    cases v with
    | arr xs =>
      obtain ⟨⟨i, x⟩, hx, rfl⟩ := List.mem_map.mp h
      exact follows_item (List.mem_singleton_self s) rfl
        (mem_positions.mp (List.mem_of_mem_drop hx))
    | _ => cases h
  | properties named =>
    cases v with
    | obj entries =>
      obtain ⟨⟨key, s⟩, hs, hw⟩ := List.mem_flatMap.mp h
      obtain ⟨x, hx, rfl⟩ := List.mem_map.mp hw
      exact follows_entry (List.mem_map_of_mem hs) rfl
        (Entries.mem_of_lookup (Option.mem_toList.mp hx))
    | _ => cases h
  | onlyProperties named =>
    cases v with
    | obj entries =>
      obtain ⟨⟨key, x⟩, hx, hw⟩ := List.mem_flatMap.mp h
      obtain ⟨s, hs, rfl⟩ := List.mem_map.mp hw
      exact follows_entry
        (List.mem_map_of_mem (Entries.mem_of_lookup (Option.mem_toList.mp hs))) rfl hx
    | _ => cases h
  | otherProperties named other =>
    cases v with
    | obj entries =>
      obtain ⟨⟨key, x⟩, hx, rfl⟩ := List.mem_map.mp h
      dsimp only
      split
      · rename_i s hs
        exact follows_entry (List.mem_append_left _
          (List.mem_map_of_mem (Entries.mem_of_lookup hs))) rfl hx
      · exact follows_entry (List.mem_append_right _ (List.mem_singleton_self other)) rfl hx
    | _ => cases h
  | propertyNames s =>
    cases v with
    | obj entries =>
      unfold visits at h
      dsimp only at h
      split at h
      · cases h
      · obtain ⟨⟨key, x⟩, hx, rfl⟩ := List.mem_map.mp h
        refine ⟨List.mem_singleton_self s, Json.name_mem_inside hx, fun hway => ?_⟩
        -- the part is asked about the name, and its violations are the object's
        rw [hway.of_str]
        exact ⟨_, .here _⟩
    | _ => cases h
  | reference target =>
    obtain ⟨s, hs, rfl⟩ := List.mem_map.mp h
    exact follows_here hs (List.mem_singleton_self v)
  | allOf schemas =>
    obtain ⟨i, hi, rfl⟩ := List.mem_mapIdx.mp h
    exact follows_here (List.getElem_mem hi) (List.mem_singleton_self v)
  | branch test yes no =>
    unfold visits at h
    dsimp only at h
    split at h
    · obtain ⟨s, hs, rfl⟩ := List.mem_map.mp h
      exact follows_here (List.mem_cons_of_mem _ (List.mem_append_left _ hs))
        (List.mem_singleton_self v)
    · obtain ⟨s, hs, rfl⟩ := List.mem_map.mp h
      exact follows_here (List.mem_cons_of_mem _ (List.mem_append_right _ hs))
        (List.mem_singleton_self v)
  | _ => cases v <;> cases h

/-- A value meets a keyword if it meets the parts that are visited, and nothing else is said. -/
def Undisputed (target? : String → Option Spot) (part : Spot → Json → Bool) (k : Keyword Spot)
    (v : Json) : Prop :=
  (∀ w ∈ k.visits target? part v, part w.spot w.value = true) ∧ k.ownViolations target? part v = []

theorem undisputed_own (hv : k.visits target? part v = []) :
    Undisputed target? part k v ↔ k.ownViolations target? part v = [] := by
  unfold Undisputed
  rw [hv]
  exact and_iff_right fun w hw => nomatch hw

theorem undisputed_visits (ho : k.ownViolations target? part v = []) :
    Undisputed target? part k v ↔ ∀ w ∈ k.visits target? part v, part w.spot w.value = true :=
  and_iff_left ho

theorem undisputed_unmet {vs : List Violation} (hv : k.visits target? part v = [])
    (ho : k.ownViolations target? part v = ifNot (k.accepts target? part v) vs) (h : vs ≠ []) :
    k.accepts target? part v = true ↔ Undisputed target? part k v := by
  rw [undisputed_own hv, ho, if_not_nil h]

theorem undisputed_free (ha : k.accepts target? part v = true)
    (hv : k.visits target? part v = []) (ho : k.ownViolations target? part v = []) :
    k.accepts target? part v = true ↔ Undisputed target? part k v := by
  rw [undisputed_own hv, ho]
  exact iff_of_true ha rfl

theorem flat_map_fails_nil {α : Type} {xs : List α} {failure : α → Failure} :
    (xs.flatMap fun x => k.fails v (failure x)) = [] ↔ xs = [] := by
  rw [List.flatMap_eq_nil_iff]
  constructor
  · intro h
    exact List.eq_nil_iff_forall_not_mem.mpr fun x hx => fails_ne_nil (h x hx)
  · rintro rfl x hx
    cases hx

theorem absent_nil {names : List String} {entries : Entries} :
    absent names entries = [] ↔ names.all (hasKey entries) = true := by
  simp [absent, List.filter_eq_nil_iff]

theorem all_zip {schemas : List Spot} {xs : List Json} :
    ((schemas.zip xs).all fun (s, x) => part s x) = true ↔
      ∀ (i : Nat) (x : Json) (s : Spot), xs[i]? = some x → schemas[i]? = some s →
        part s x = true := by
  rw [List.all_eq_true]
  constructor
  · intro h i x s hx hs
    exact h (s, x) (List.mem_of_getElem? (List.getElem?_zip_eq_some.mpr ⟨hs, hx⟩))
  · rintro h ⟨s, x⟩ hm
    obtain ⟨i, hi⟩ := List.getElem?_of_mem hm
    obtain ⟨hs, hx⟩ := List.getElem?_zip_eq_some.mp hi
    exact h i x s hx hs

theorem all_drop {skip : Nat} {s : Spot} {xs : List Json} :
    (xs.drop skip).all (part s) = true ↔
      ∀ e ∈ (positions xs).drop skip, part s e.2 = true := by
  have hpositions : (positions xs).map (·.2) = xs := by
    unfold positions
    rw [List.mapIdx_eq_zipIdx_map, List.map_map]
    exact List.zipIdx_map_fst 0 xs
  have hdrop : xs.drop skip = ((positions xs).drop skip).map (·.2) := by
    rw [List.map_drop, hpositions]
  rw [hdrop, List.all_map, List.all_eq_true]
  rfl

/-- A keyword accepts a value exactly if the visits do and it says nothing itself. -/
theorem accepts_visits : k.accepts target? part v = true ↔ Undisputed target? part k v := by
  cases k with
  | pattern source =>
    cases v with
    | str s =>
      rw [undisputed_own rfl, accepts]
      show _ ↔ ((mismatch? source s).toList.flatMap _) = []
      rw [flat_map_fails_nil]
      cases mismatch? source s <;> simp
    | _ => exact undisputed_free rfl rfl rfl
  | required names =>
    cases v with
    | obj entries =>
      rw [undisputed_own rfl, accepts, ← absent_nil]
      exact flat_map_fails_nil.symm
    | _ => exact undisputed_free rfl rfl rfl
  | dependentRequired needs =>
    cases v with
    | obj entries =>
      rw [undisputed_own rfl, accepts, List.all_eq_true]
      show _ ↔ (needs.flatMap _) = []
      rw [List.flatMap_eq_nil_iff]
      refine forall₂_congr fun need _ => ?_
      obtain ⟨key, names⟩ := need
      dsimp only
      cases hasKey entries key with
      | false => exact iff_of_true rfl rfl
      | true =>
        rw [Bool.not_true, Bool.false_or, if_pos rfl, flat_map_fails_nil]
        exact absent_nil.symm
    | _ => exact undisputed_free rfl rfl rfl
  | noProperties =>
    cases v with
    | obj entries =>
      rw [undisputed_own rfl, accepts]
      cases entries with
      | nil => exact iff_of_true rfl rfl
      | cons entry rest => exact iff_of_false Bool.false_ne_true (List.cons_ne_nil _ _)
    | _ => exact undisputed_free rfl rfl rfl
  | prefixItems schemas | itemList schemas =>
    cases v with
    | arr xs =>
      rw [undisputed_visits rfl, accepts, all_zip]
      show _ ↔ ∀ w ∈ (positions xs).flatMap _, _
      rw [List.forall_mem_flatMap, Prod.forall]
      refine forall₂_congr fun i x => ?_
      rw [mem_positions]
      dsimp only
      cases schemas[i]? <;> simp
    | _ => exact undisputed_free rfl rfl rfl
  | items skip s =>
    cases v with
    | arr xs =>
      rw [undisputed_visits rfl, accepts, all_drop]
      show _ ↔ ∀ w ∈ ((positions xs).drop skip).map _, _
      rw [List.forall_mem_map]
    | _ => exact undisputed_free rfl rfl rfl
  | properties named =>
    cases v with
    | obj entries =>
      rw [undisputed_visits rfl, accepts, List.all_eq_true]
      show _ ↔ ∀ w ∈ named.flatMap _, _
      rw [List.forall_mem_flatMap]
      refine forall₂_congr fun e _ => ?_
      obtain ⟨key, s⟩ := e
      dsimp only
      cases entries.lookup key <;> simp
    | _ => exact undisputed_free rfl rfl rfl
  | onlyProperties named =>
    cases v with
    | obj entries =>
      unfold Undisputed
      show _ ↔ (∀ w ∈ entries.flatMap _, _) ∧ ifNot _ _ = []
      rw [accepts, List.all_eq_true, List.forall_mem_flatMap, if_not_nil fails_ne_nil,
        List.isEmpty_iff, List.filter_eq_nil_iff, ← forall₂_and]
      refine forall₂_congr fun e _ => ?_
      obtain ⟨key, x⟩ := e
      dsimp only
      cases named.lookup key <;> simp
    | _ => exact undisputed_free rfl rfl rfl
  | otherProperties named other =>
    cases v with
    | obj entries =>
      rw [undisputed_visits rfl, accepts, List.all_eq_true]
      show _ ↔ ∀ w ∈ entries.map _, _
      rw [List.forall_mem_map]
      refine forall₂_congr fun e _ => ?_
      obtain ⟨key, x⟩ := e
      dsimp only
      cases named.lookup key <;> simp
    | _ => exact undisputed_free rfl rfl rfl
  | propertyNames s =>
    cases v with
    | obj entries =>
      obtain ⟨schema, met⟩ := s
      have hnames (he : Undisputed target? part (.propertyNames ⟨schema, met⟩) (.obj entries) ↔
          ∀ w ∈ entries.map fun e => (Visit.mk ⟨schema, met⟩ (.str e.1) [.key "propertyNames"] []),
            part w.spot w.value = true) :
          (entries.all fun (key, _) => part ⟨schema, met⟩ (.str key)) = true ↔
            Undisputed target? part (.propertyNames ⟨schema, met⟩) (.obj entries) := by
        rw [he, List.forall_mem_map, List.all_eq_true]
      cases schema with
      | bool b =>
        cases b with
        | false => exact undisputed_unmet rfl rfl fails_ne_nil
        | true => exact hnames (undisputed_visits rfl)
      | _ => exact hnames (undisputed_visits rfl)
    | _ => exact undisputed_free rfl rfl rfl
  | reference target =>
    rw [undisputed_visits rfl, accepts, visits]
    cases target? target <;> simp
  | allOf schemas =>
    rw [undisputed_visits rfl, accepts, List.all_eq_true]
    show _ ↔ ∀ w ∈ schemas.mapIdx _, _
    constructor
    · intro h w hw
      obtain ⟨i, hi, rfl⟩ := List.mem_mapIdx.mp hw
      exact h _ (List.getElem_mem hi)
    · intro h s hs
      obtain ⟨i, hi, rfl⟩ := List.mem_iff_getElem.mp hs
      exact h _ (List.mem_mapIdx.mpr ⟨i, hi, rfl⟩)
  | branch test yes no =>
    rw [undisputed_visits rfl, accepts]
    unfold visits
    dsimp only
    cases part test v with
    | true => cases yes <;> simp
    | false => cases no <;> simp
  -- the others visit nothing, and report once if they are not met
  | _ => exact undisputed_unmet (by cases v <;> rfl) rfl fails_ne_nil

/-- A keyword has no violations exactly if it accepts the value, if that is so of its parts. -/
theorem violations_nil (h : ∀ s x, explain s x = [] ↔ part s x = true) :
    k.violations target? part explain v = [] ↔ k.accepts target? part v = true := by
  rw [violations_visits, accepts_visits, List.append_eq_nil_iff, List.flatMap_eq_nil_iff]
  apply and_congr_left'
  refine forall₂_congr fun w _ => ?_
  rw [Visit.report, List.map_eq_nil_iff, h]

/-- Every violation of a keyword points at a part of the value, if that is so of its parts. -/
theorem violations_way (h : ∀ s x, ∀ w ∈ explain s x, ∃ y, Json.Way x w.instanceAt y) :
    ∀ w ∈ k.violations target? part explain v, ∃ y, Json.Way v w.instanceAt y := by
  intro w hw
  rw [violations_visits] at hw
  rcases List.mem_append.mp hw with hw | hw
  · obtain ⟨visit, hvisit, hw⟩ := List.mem_flatMap.mp hw
    obtain ⟨said, hsaid, rfl⟩ := List.mem_map.mp hw
    obtain ⟨x, hway⟩ := h _ _ said hsaid
    exact (visits_follow hvisit).way hway
  · rw [instance_at_own hw]
    exact ⟨v, .here v⟩

theorem violations_congr (ha : k.accepts target? part v = k.accepts target? part' v)
    (hp : ∀ s ∈ k.parts, ∀ x ∈ k.asked v, part s x = part' s x)
    (he : ∀ s ∈ k.spots target?, ∀ x ∈ k.asked v, explain s x = explain' s x) :
    k.violations target? part explain v = k.violations target? part' explain' v := by
  have hvisits : k.visits target? part v = k.visits target? part' v := by
    cases k with
    | branch test yes no =>
      unfold visits
      dsimp only
      rw [hp test List.mem_cons_self v (List.mem_singleton_self v)]
    | _ => cases v <;> rfl
  have hown : k.ownViolations target? part v = k.ownViolations target? part' v := by
    cases k with
    | oneOf schemas =>
      have hany : schemas.any (part · v) = schemas.any (part' · v) :=
        Entries.any_congr_mem fun s hs => hp s hs v (List.mem_singleton_self v)
      show ifNot _ _ = ifNot _ _
      rw [ha, hany]
    | prefixItems _ | itemList _ | items _ _ | properties _ | otherProperties _ _ | reference _
    | allOf _ | branch _ _ _ => rfl
    | pattern _ | required _ | dependentRequired _ | noProperties | onlyProperties _
    | propertyNames _ => cases v <;> rfl
    | _ => exact congrArg (ifNot · _) ha
  rw [violations_visits, violations_visits, hvisits, hown]
  congr 1
  apply List.flatMap_congr
  intro w hw
  have hfollow := visits_follow hw
  rw [Visit.report, Visit.report, he _ hfollow.spot _ hfollow.value]

end Keyword

end CallContract
