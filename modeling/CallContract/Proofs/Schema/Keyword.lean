import CallContract.Schema.Evaluation
import CallContract.Proofs.Json.Entries

/-!
# Keywords at their places

Placing the keywords of a schema keeps them in order and keeps their parts. What
a keyword asks of a value depends on what its parts ask, and on nothing else
unless it is a reference.
-/

set_option autoImplicit false

namespace CallContract

open Entries

namespace Json

def inside : Json → List Json
  | .arr items => items
  | .obj entries => entries.map (·.2) ++ entries.map (.str ·.1)
  | _ => []

theorem entry_mem_inside {entries : Entries} {e : String × Json} (h : e ∈ entries) :
    e.2 ∈ (obj entries).inside :=
  List.mem_append_left _ (List.mem_map_of_mem h)

theorem name_mem_inside {entries : Entries} {e : String × Json} (h : e ∈ entries) :
    str e.1 ∈ (obj entries).inside :=
  List.mem_append_right _ (List.mem_map_of_mem h)

end Json

namespace Keyword

variable {σ τ : Type}

def map (f : σ → τ) (k : Keyword σ) : Keyword τ := Id.run (k.mapParts fun s => pure (f s))

@[simp] theorem map_all_of (f : σ → τ) (schemas : List σ) :
    (allOf schemas).map f = .allOf (schemas.map f) :=
  congrArg Keyword.allOf List.idRun_mapM

@[simp] theorem map_any_of (f : σ → τ) (schemas : List σ) :
    (anyOf schemas).map f = .anyOf (schemas.map f) :=
  congrArg Keyword.anyOf List.idRun_mapM

@[simp] theorem map_one_of (f : σ → τ) (schemas : List σ) :
    (oneOf schemas).map f = .oneOf (schemas.map f) :=
  congrArg Keyword.oneOf List.idRun_mapM

@[simp] theorem map_item_list (f : σ → τ) (schemas : List σ) :
    (itemList schemas).map f = .itemList (schemas.map f) :=
  congrArg Keyword.itemList List.idRun_mapM

@[simp] theorem map_prefix_items (f : σ → τ) (schemas : List σ) :
    (prefixItems schemas).map f = .prefixItems (schemas.map f) :=
  congrArg Keyword.prefixItems List.idRun_mapM

@[simp] theorem map_branch (f : σ → τ) (test : σ) (yes no : Option σ) :
    (branch test yes no).map f = .branch (f test) (yes.map f) (no.map f) := by
  cases yes <;> cases no <;> rfl

@[simp] theorem map_properties (f : σ → τ) (named : List (String × σ)) :
    (properties named).map f = .properties (named.map fun (k, s) => (k, f s)) :=
  congrArg Keyword.properties List.idRun_mapM

@[simp] theorem map_only_properties (f : σ → τ) (named : List (String × σ)) :
    (onlyProperties named).map f = .onlyProperties (named.map fun (k, s) => (k, f s)) :=
  congrArg Keyword.onlyProperties List.idRun_mapM

@[simp] theorem map_other_properties (f : σ → τ) (named : List (String × σ)) (s : σ) :
    (otherProperties named s).map f =
      .otherProperties (named.map fun (k, s) => (k, f s)) (f s) :=
  congrArg (Keyword.otherProperties · (f s)) List.idRun_mapM

theorem numbered_next (root : Schema) (parts : List Schema) (met : List String) :
    ((parts.mapM (Spot.next root)) met).1.map Spot.schema = parts := by
  induction parts generalizing met with
  | nil => rfl
  | cons s rest ih =>
    rw [List.mapM_cons]
    exact congrArg (s :: ·) (ih _)

theorem numbered_next_named (root : Schema) (named : List (String × Schema)) (met : List String) :
    ((named.mapM (m := StateM (List String)) fun (k, s) => return (k, ← Spot.next root s))
      met).1.map (fun (k, p) => (k, Spot.schema p)) = named := by
  induction named generalizing met with
  | nil => rfl
  | cons entry rest ih =>
    rw [List.mapM_cons]
    exact congrArg (entry :: ·) (ih _)

theorem map_placed (root : Schema) (met : List String) (k : Keyword Schema) :
    ((k.mapParts (Spot.next root)) met).1.map Spot.schema = k := by
  cases k with
  | allOf schemas => exact (map_all_of _ _).trans (congrArg _ (numbered_next root schemas met))
  | anyOf schemas => exact (map_any_of _ _).trans (congrArg _ (numbered_next root schemas met))
  | oneOf schemas => exact (map_one_of _ _).trans (congrArg _ (numbered_next root schemas met))
  | itemList schemas =>
    exact (map_item_list _ _).trans (congrArg _ (numbered_next root schemas met))
  | prefixItems schemas =>
    exact (map_prefix_items _ _).trans (congrArg _ (numbered_next root schemas met))
  | branch test yes no => cases yes <;> cases no <;> rfl
  | properties named =>
    exact (map_properties _ _).trans (congrArg _ (numbered_next_named root named met))
  | onlyProperties named =>
    exact (map_only_properties _ _).trans (congrArg _ (numbered_next_named root named met))
  | otherProperties named s =>
    exact (map_other_properties _ _ _).trans
      (congrArg (Keyword.otherProperties · s) (numbered_next_named root named met))
  | _ => rfl

/-- What a keyword that is no reference asks, given the meaning of its parts. -/
def meets (part : Schema → Json → Bool) (k : Keyword Schema) (v : Json) : Bool :=
  (k.map fun s => Spot.mk s []).accepts (fun _ => none) (fun s => part s.schema) v

theorem meets_prefix_items (part : Schema → Json → Bool) (schemas : List Schema) (xs : List Json) :
    (prefixItems schemas).meets part (.arr xs) =
      (schemas.zip xs).all fun (s, x) => part s x := by
  rw [meets, map_prefix_items, accepts, List.zip_map_left, List.all_map]
  rfl

theorem meets_all_of (part : Schema → Json → Bool) (schemas : List Schema) (v : Json) :
    (allOf schemas).meets part v = schemas.all (part · v) := by
  rw [meets, map_all_of, accepts, List.all_map]
  rfl

def inPlace : Keyword σ → Bool
  | .allOf _ | .anyOf _ | .oneOf _ | .not _ | .branch _ _ _ | .reference _ => true
  | _ => false

def asked (k : Keyword σ) (v : Json) : List Json := if k.inPlace then [v] else v.inside

/-- The meaning of a keyword at its place is that of the keyword by itself, if its parts mean the
same for the values that they are asked about. -/
theorem accepts_asked {target? : String → Option Spot} {p : Spot → Json → Bool}
    {part : Schema → Json → Bool} {k : Keyword Spot} {v : Json}
    (hp : ∀ s ∈ k.parts, ∀ x ∈ k.asked v, p s x = part s.schema x)
    (hr : ∀ r, k ≠ .reference r) :
    k.accepts target? p v = (k.map Spot.schema).meets part v := by
  cases k with
  | reference r => exact absurd rfl (hr r)
  | allOf schemas =>
    rw [map_all_of, meets_all_of, List.all_map]
    exact all_congr_mem fun s hs => hp s hs v (List.mem_singleton_self v)
  | anyOf schemas =>
    rw [map_any_of, meets, map_any_of, accepts, accepts, List.any_map, List.any_map]
    exact any_congr_mem fun s hs => hp s hs v (List.mem_singleton_self v)
  | oneOf schemas =>
    rw [map_one_of, meets, map_one_of, accepts, accepts, List.filter_map, List.filter_map,
      List.length_map, List.length_map]
    exact congrArg (List.length · == 1)
      (List.filter_congr fun s hs => hp s hs v (List.mem_singleton_self v))
  | not s => exact congrArg (!·) (hp s (by simp [parts]) v (List.mem_singleton_self v))
  | branch test yes no =>
    have hv : v ∈ (branch test yes no).asked v := List.mem_singleton_self v
    rw [map_branch, meets, map_branch, accepts, accepts, hp test (by simp [parts]) v hv]
    congr 1
    · cases yes with
      | none => rfl
      | some s => exact hp s (by simp [parts]) v hv
    · cases no with
      | none => rfl
      | some s => exact hp s (by simp [parts]) v hv
  | itemList schemas =>
    cases v with
    | arr xs =>
      rw [map_item_list, meets, map_item_list, accepts, accepts, List.zip_map_left,
        List.zip_map_left, List.all_map, List.all_map]
      exact all_congr_mem fun e he => hp e.1 (List.of_mem_zip he).1 e.2 (List.of_mem_zip he).2
    | _ =>
      rw [map_item_list, meets, map_item_list]
      rfl
  | prefixItems schemas =>
    cases v with
    | arr xs =>
      rw [map_prefix_items, meets_prefix_items, accepts, List.zip_map_left, List.all_map]
      exact all_congr_mem fun e he => hp e.1 (List.of_mem_zip he).1 e.2 (List.of_mem_zip he).2
    | _ =>
      rw [map_prefix_items, meets, map_prefix_items]
      rfl
  | items skip s =>
    cases v with
    | arr xs =>
      exact all_congr_mem fun x hx => hp s (by simp [parts]) x (List.mem_of_mem_drop hx)
    | _ => rfl
  | contains s =>
    cases v with
    | arr xs => exact any_congr_mem fun x hx => hp s (by simp [parts]) x hx
    | _ => rfl
  | propertyNames s =>
    cases v with
    | obj entries =>
      have hall : (entries.all fun e => p s (.str e.1)) =
          entries.all fun e => part s.schema (.str e.1) :=
        all_congr_mem fun e he => hp s (by simp [parts]) _ (Json.name_mem_inside he)
      rw [accepts, hall]
      rfl
    | _ => rfl
  | properties named =>
    cases v with
    | obj entries =>
      rw [map_properties, meets, map_properties, accepts, accepts, List.all_map, List.all_map]
      apply all_congr_mem
      rintro ⟨key, s⟩ hs
      dsimp only [Function.comp_apply]
      cases hx : entries.lookup key with
      | none => rfl
      | some x =>
        exact hp s (List.mem_map.mpr ⟨_, hs, rfl⟩) x (Json.entry_mem_inside (mem_of_lookup hx))
    | _ =>
      rw [map_properties, meets, map_properties]
      rfl
  | onlyProperties named =>
    cases v with
    | obj entries =>
      rw [map_only_properties, meets, map_only_properties, accepts, accepts]
      apply all_congr_mem
      rintro ⟨key, x⟩ hx
      dsimp only
      rw [lookup_map_snd (Spot.mk · []), lookup_map_snd Spot.schema]
      cases hk : named.lookup key with
      | none => rfl
      | some s =>
        exact hp s (List.mem_map.mpr ⟨_, mem_of_lookup hk, rfl⟩) x (Json.entry_mem_inside hx)
    | _ =>
      rw [map_only_properties, meets, map_only_properties]
      rfl
  | otherProperties named s =>
    cases v with
    | obj entries =>
      rw [map_other_properties, meets, map_other_properties, accepts, accepts]
      apply all_congr_mem
      rintro ⟨key, x⟩ hx
      dsimp only
      rw [lookup_map_snd (Spot.mk · []), lookup_map_snd Spot.schema]
      cases hk : named.lookup key with
      | none => exact hp s (by simp [parts]) x (Json.entry_mem_inside hx)
      | some t =>
        exact hp t (List.mem_append_left _ (List.mem_map.mpr
          ⟨_, mem_of_lookup hk, rfl⟩)) x (Json.entry_mem_inside hx)
    | _ =>
      rw [map_other_properties, meets, map_other_properties]
      rfl
  -- the other keywords have no parts
  | _ => cases v <;> rfl

theorem reference_of_map {f : σ → τ} {k : Keyword σ} {r : String} (h : k.map f = .reference r) :
    k = .reference r := by
  cases k with
  | reference => cases h; rfl
  | allOf _ | anyOf _ | oneOf _ | branch _ _ _ => simp at h
  | itemList _ | prefixItems _ => simp at h
  | properties _ | onlyProperties _ | otherProperties _ _ => simp at h
  | _ => cases h

theorem asked_map (f : σ → τ) (k : Keyword σ) (v : Json) : (k.map f).asked v = k.asked v := by
  have h : (k.map f).inPlace = k.inPlace := by
    cases k with
    | allOf _ | anyOf _ | oneOf _ | branch _ _ _ => simp [inPlace]
    | itemList _ | prefixItems _ => simp [inPlace]
    | properties _ | onlyProperties _ | otherProperties _ _ => simp [inPlace]
    | _ => rfl
  rw [asked, asked, h]

theorem accepts_meets {target? : String → Option Spot} {p : Spot → Json → Bool}
    {part : Schema → Json → Bool} {k : Keyword Spot}
    (hp : ∀ s ∈ k.parts, p s = part s.schema) (hr : ∀ r, k ≠ .reference r) (v : Json) :
    k.accepts target? p v = (k.map Spot.schema).meets part v :=
  accepts_asked (fun s hs x _ => congrFun (hp s hs) x) hr

theorem parts_map (f : σ → τ) (k : Keyword σ) : (k.map f).parts = k.parts.map f := by
  cases k with
  | allOf _ | anyOf _ | oneOf _ => simp [parts]
  | branch test yes no => cases yes <;> cases no <;> rfl
  | itemList _ | prefixItems _ => simp [parts]
  | properties _ | onlyProperties _ | otherProperties _ _ => simp [parts]
  | _ => rfl

end Keyword

namespace Spot

theorem map_places (root : Schema) (met : List String) (ks : List (Keyword Schema)) :
    (places root met ks).map (fun p => p.2.map Spot.schema) = ks := by
  induction ks generalizing met with
  | nil => rfl
  | cons k ks ih => exact congr (congrArg List.cons (Keyword.map_placed root met k)) (ih _)

theorem keyword_of_place {root : Schema} {met : List String} {ks : List (Keyword Schema)}
    {place : List String × Keyword Spot} (h : place ∈ places root met ks) :
    place.2.map Spot.schema ∈ ks := by
  have hm := List.mem_map_of_mem (f := fun p => p.2.map Spot.schema) h
  rwa [map_places] at hm

theorem place_of_keyword (root : Schema) (met : List String) {ks : List (Keyword Schema)}
    {k : Keyword Schema} (h : k ∈ ks) :
    ∃ place ∈ places root met ks, place.2.map Spot.schema = k := by
  rw [← map_places root met ks] at h
  exact List.mem_map.mp h

end Spot

namespace Schema

open Keyword

theorem all_places {root : Schema} {met : List String} {ks : List (Keyword Schema)}
    {p : Spot → Json → Bool} {v : Json} {ask : Keyword Schema → Bool}
    (h : ∀ here k, (here, k) ∈ Spot.places root met ks →
      k.accepts (Spot.target? root here) p v = ask (k.map Spot.schema)) :
    ((Spot.places root met ks).all fun (met, k) => k.accepts (Spot.target? root met) p v) =
      ks.all ask := by
  conv => rhs; rw [← Spot.map_places root met ks]
  rw [List.all_map]
  exact all_congr_mem fun (here, k) hk => h here k hk

/-- A schema accepts nothing that one of its keywords refuses. A keyword whose parts are the schemas
of everything and nothing asks the same at any place. -/
theorem meets_of_accepts {root : Schema} {n : Nat} {met : List String} {entries : Entries}
    {v : Json} (h : acceptsWithin root (n + 2) ⟨.obj entries, met⟩ v = true) {k : Keyword Schema}
    (hk : k ∈ Keyword.ofEntries entries) (hr : ∀ r, k ≠ .reference r)
    (hp : ∀ s ∈ k.parts, ∃ b, s = .bool b) : k.meets accepts v = true := by
  obtain ⟨⟨here, placed⟩, hplace, rfl⟩ := Spot.place_of_keyword root met hk
  have hm : placed.accepts (Spot.target? root here) (acceptsWithin root (n + 1)) v =
      (placed.map Spot.schema).meets accepts v := by
    apply accepts_meets
    · rintro ⟨s, met⟩ hs
      obtain ⟨b, rfl⟩ := hp s (parts_map Spot.schema placed ▸ List.mem_map_of_mem hs)
      rfl
    · rintro r rfl
      exact hr r rfl
  rw [← hm]
  exact List.all_eq_true.mp h _ hplace

end Schema

end CallContract
