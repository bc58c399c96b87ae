import CallContract.Schema.Shape
import CallContract.Proofs.Schema.Keyword

/-!
# Self-contained schemas

A schema is self-contained if no keyword in it, at any depth, refers to another
place or names one. Its parts are self-contained, too: the schemas that its
keywords are read with stand in it, at less than its depth.
-/

set_option autoImplicit false

namespace CallContract

namespace Schema

def shapeOf? (keyword : String) : Option Shape := Vocabulary.all.findSome? (·.shape? keyword)

def referring : List String := ["$ref", "$dynamicRef", "$id"]

mutual

/-- No keyword of the schema, or of a schema inside it, is a referring one. -/
def selfContained : Schema → Bool
  | .obj entries => entriesSelfContained entries
  | .arr items => itemsSelfContained items
  | _ => true

def entriesSelfContained : List (String × Json) → Bool
  | [] => true
  | (key, x) :: rest =>
    !referring.contains key
      && (match shapeOf? key with
        | some .schema | some .schemas => selfContained x
        | some .schemaMap => mapSelfContained x
        | _ => true)
      && entriesSelfContained rest

def itemsSelfContained : List Json → Bool
  | [] => true
  | x :: rest => selfContained x && itemsSelfContained rest

def mapSelfContained : Json → Bool
  | .obj members => membersSelfContained members
  | _ => true

def membersSelfContained : List (String × Json) → Bool
  | [] => true
  | (_, x) :: rest => selfContained x && membersSelfContained rest

end

inductive PartOf (entries : Entries) : Schema → Prop
  | value {key : String} {s : Schema} (shape : shapeOf? key = some .schema)
      (entry : (key, s) ∈ entries) : PartOf entries s
  | item {key : String} {items : List Json} {s : Schema}
      (shape : shapeOf? key = some .schema ∨ shapeOf? key = some .schemas)
      (entry : (key, .arr items) ∈ entries) (item : s ∈ items) : PartOf entries s
  | member {key name : String} {members : Entries} {s : Schema}
      (shape : shapeOf? key = some .schemaMap)
      (entry : (key, .obj members) ∈ entries) (member : (name, s) ∈ members) : PartOf entries s

end Schema

namespace Keyword

open Schema Entries

theorem of_limit_found {make : Nat → Keyword Schema} {value : Json} {k : Keyword Schema}
    (h : ofLimit make value = .ok (some k)) :
    ∃ n limit, value = .num n ∧ n.toLimit? = some limit ∧ k = make limit := by
  unfold ofLimit at h
  split at h
  · rename_i n
    split at h
    · rename_i limit hn
      cases h
      exact ⟨n, limit, rfl, hn, rfl⟩
    · cases h
  · cases h

theorem of_number_found {make : Number → Keyword Schema} {value : Json} {k : Keyword Schema}
    (h : ofNumber make value = .ok (some k)) : ∃ n, value = .num n ∧ k = make n := by
  unfold ofNumber at h
  split at h
  · cases h
    exact ⟨_, rfl, rfl⟩
  · cases h

theorem of_string_found {make : String → Keyword Schema} {value : Json} {k : Keyword Schema}
    (h : ofString make value = .ok (some k)) : ∃ text, value = .str text ∧ k = make text := by
  unfold ofString at h
  split at h
  · cases h
    exact ⟨_, rfl, rfl⟩
  · cases h

theorem of_list_found {make : List Json → Keyword Schema} {value : Json} {k : Keyword Schema}
    (h : ofList make value = .ok (some k)) : ∃ items, value = .arr items ∧ k = make items := by
  unfold ofList at h
  split at h
  · cases h
    exact ⟨_, rfl, rfl⟩
  · cases h

theorem of_kind_name_found {name : String} {k : Keyword Schema}
    (h : ofKindName name = .ok (some k)) : ∃ kind, k = .type kind := by
  unfold ofKindName at h
  split at h
  · cases h
    exact ⟨_, rfl⟩
  · cases h

theorem of_type_found {value : Json} {k : Keyword Schema} (h : ofType value = .ok (some k)) :
    (∃ kind, k = .type kind) ∨ ∃ kinds, k = .types kinds := by
  unfold ofType at h
  split at h
  · exact .inl (of_kind_name_found h)
  · exact .inl (of_kind_name_found h)
  · cases h
  · rename_i list _ _
    cases hl : kinds list with
    | error e => rw [hl] at h; cases h
    | ok ks => rw [hl] at h; cases h; exact .inr ⟨ks, rfl⟩
  · cases h

theorem partless {entries : Entries} {key : String} {k : Keyword Schema} (hn : k.name = key)
    (h : k.parts = []) : k.name = key ∧ ∀ s ∈ k.parts, PartOf entries s := by
  simp [hn, h]

theorem sole_item {entries : Entries} {key : String} {k : Keyword Schema} {value : Json}
    (h : (key, value) ∈ entries) (hs : shapeOf? key = some .schema) (hn : k.name = key)
    (hp : k.parts = [value]) : k.name = key ∧ ∀ s ∈ k.parts, PartOf entries s := by
  refine ⟨hn, fun s hm => ?_⟩
  rw [hp, List.mem_singleton] at hm
  exact hm ▸ .value hs h

theorem additional_found {entries : Entries} {value : Json} {k : Keyword Schema}
    (h : ("additionalProperties", value) ∈ entries)
    (hr : ofAdditional (entries.lookup "properties") value = .ok (some k)) :
    k.name = "additionalProperties" ∧ ∀ s ∈ k.parts, PartOf entries s := by
  have hother : PartOf entries value :=
    .value (show shapeOf? "additionalProperties" = some .schema from rfl) h
  have hnamed (named : Entries) (hp : entries.lookup "properties" = some (.obj named)) :
      ∀ s ∈ named.map (·.2), PartOf entries s := by
    intro s hs
    obtain ⟨⟨name, t⟩, hm, rfl⟩ := List.mem_map.mp hs
    exact .member (show shapeOf? "properties" = some .schemaMap from rfl) (mem_of_lookup hp) hm
  unfold ofAdditional at hr
  split at hr
  · cases hr
  · cases hr
    exact partless rfl rfl
  · cases hr
    exact sole_item h rfl rfl rfl
  · rename_i named hp
    cases hr
    exact ⟨rfl, hnamed named hp⟩
  · rename_i named hp _ _
    cases hr
    refine ⟨rfl, fun s hs => ?_⟩
    rcases List.mem_append.mp hs with hs | hs
    · exact hnamed named hp s hs
    · rw [List.mem_singleton.mp hs]
      exact hother
  · cases hr

/-- A keyword is read from the entry of its name, and its parts stand in the schema. -/
theorem read_found {entries : Entries} {key : String} {value : Json} {k : Keyword Schema}
    (h : (key, value) ∈ entries) (hr : read entries key value = .ok (some k)) :
    k.name = key ∧ ∀ s ∈ k.parts, PartOf entries s := by
  unfold read at hr
  split at hr
  case h_1 => rcases of_type_found hr with ⟨_, rfl⟩ | ⟨_, rfl⟩ <;> exact partless rfl rfl
  case h_2 =>
    obtain ⟨_, _, rfl⟩ := of_list_found hr
    exact partless rfl rfl
  case h_3 =>
    cases hr
    exact partless rfl rfl
  case h_4 | h_5 | h_6 | h_7 | h_8 =>
    obtain ⟨_, _, rfl⟩ := of_number_found hr
    exact partless rfl rfl
  case h_9 | h_10 | h_11 | h_12 | h_13 | h_14 =>
    obtain ⟨_, _, _, _, rfl⟩ := of_limit_found hr
    exact partless rfl rfl
  case h_15 => split at hr <;> cases hr; exact partless rfl rfl
  case h_16 | h_19 =>
    obtain ⟨_, _, rfl⟩ := of_string_found hr
    exact partless rfl rfl
  case h_17 =>
    split at hr
    · rename_i list
      cases hl : strings list <;> rw [hl] at hr <;> cases hr
      exact partless rfl rfl
    · cases hr
  case h_18 =>
    split at hr
    · rename_i members
      cases hl : needs members <;> rw [hl] at hr <;> cases hr
      exact partless rfl rfl
    · cases hr
  case h_20 | h_21 | h_22 | h_26 =>
    obtain ⟨items, rfl, rfl⟩ := of_list_found hr
    exact ⟨rfl, fun s hs => .item (.inr rfl) h hs⟩
  case h_23 | h_27 =>
    cases hr
    exact sole_item h rfl rfl rfl
  case h_24 =>
    split at hr
    · cases hr
    · rename_i yes no _
      cases hr
      refine ⟨rfl, fun s hs => ?_⟩
      rcases List.mem_cons.mp hs with rfl | hs
      · exact .value rfl h
      · rcases List.mem_append.mp hs with hs | hs
        · exact .value (show shapeOf? "then" = some .schema from rfl)
            (mem_of_lookup (Option.mem_toList.mp hs))
        · exact .value (show shapeOf? "else" = some .schema from rfl)
            (mem_of_lookup (Option.mem_toList.mp hs))
  case h_25 =>
    split at hr
    · cases hr
      exact ⟨rfl, fun s hs => .item (.inl rfl) h hs⟩
    · cases hr
      exact sole_item h rfl rfl rfl
    · cases hr
      exact sole_item h rfl rfl rfl
    · cases hr
  case h_28 =>
    split at hr
    · cases hr
    · split at hr
      · cases hr
        refine ⟨rfl, fun s hs => ?_⟩
        obtain ⟨⟨name, t⟩, hm, rfl⟩ := List.mem_map.mp hs
        exact .member rfl h hm
      · cases hr
  case h_29 => exact additional_found h hr
  case h_30 =>
    split at hr
    · cases hr
      exact sole_item h rfl rfl rfl
    · cases hr
      exact sole_item h rfl rfl rfl
    · cases hr
  case h_31 => cases hr

theorem mem_of_entries {entries : Entries} {k : Keyword Schema} :
    k ∈ ofEntries entries ↔
      ∃ key value, (key, value) ∈ entries ∧ read entries key value = .ok (some k) := by
  unfold ofEntries ofEntry?
  rw [List.mem_filterMap]
  constructor
  · rintro ⟨⟨key, value⟩, hm, h⟩
    refine ⟨key, value, hm, ?_⟩
    dsimp only at h
    split at h
    · rename_i hr
      rw [hr, h]
    · cases h
  · rintro ⟨key, value, hm, h⟩
    exact ⟨(key, value), hm, by dsimp only; rw [h]⟩

end Keyword

namespace Json

mutual

theorem depth_lt_nodes : (s : Json) → s.depth < s.nodes
  | .arr items => by
    have h := depth_of_items_le_nodes items
    simp only [depth, nodes]
    omega
  | .obj entries => by
    have h := depth_of_entries_le_nodes entries
    simp only [depth, nodes]
    omega
  | .null | .bool _ | .num _ | .str _ => by simp [depth, nodes]

theorem depth_of_items_le_nodes : (items : List Json) → depthOfItems items ≤ nodesOfItems items
  | [] => Nat.le_refl 0
  | x :: rest => by
    have hx := depth_lt_nodes x
    have hrest := depth_of_items_le_nodes rest
    simp only [depthOfItems, nodesOfItems]
    omega

theorem depth_of_entries_le_nodes :
    (entries : List (String × Json)) → depthOfEntries entries ≤ nodesOfEntries entries
  | [] => Nat.le_refl 0
  | (_, x) :: rest => by
    have hx := depth_lt_nodes x
    have hrest := depth_of_entries_le_nodes rest
    simp only [depthOfEntries, nodesOfEntries]
    omega

end

theorem depth_of_item {items : List Json} {s : Json} (h : s ∈ items) :
    s.depth < depthOfItems items := by
  induction items with
  | nil => cases h
  | cons x rest ih =>
    rw [depthOfItems]
    rcases List.mem_cons.mp h with rfl | h
    · omega
    · have := ih h
      omega

theorem depth_of_entry {entries : Entries} {key : String} {s : Json} (h : (key, s) ∈ entries) :
    s.depth < depthOfEntries entries := by
  induction entries with
  | nil => cases h
  | cons entry rest ih =>
    obtain ⟨k, x⟩ := entry
    rw [depthOfEntries]
    rcases List.mem_cons.mp h with h | h
    · cases h
      omega
    · have := ih h
      omega

end Json

namespace Schema

open Keyword

theorem depth_of_part {entries : Entries} {s : Schema} (h : PartOf entries s) :
    s.depth < Json.depth (.obj entries) := by
  rw [show Json.depth (.obj entries) = Json.depthOfEntries entries from rfl]
  cases h with
  | value _ entry => exact Json.depth_of_entry entry
  | item _ entry item =>
    have hi := Json.depth_of_item item
    have he := Json.depth_of_entry entry
    rw [Json.depth] at he
    omega
  | member _ entry member =>
    have hm := Json.depth_of_entry member
    have he := Json.depth_of_entry entry
    rw [Json.depth] at he
    omega

theorem self_contained_item {items : List Json} (h : itemsSelfContained items = true) {s : Schema}
    (hs : s ∈ items) : s.selfContained = true := by
  induction items with
  | nil => cases hs
  | cons x rest ih =>
    rw [itemsSelfContained, Bool.and_eq_true] at h
    rcases List.mem_cons.mp hs with rfl | hs
    · exact h.1
    · exact ih h.2 hs

theorem self_contained_member {members : Entries} (h : membersSelfContained members = true)
    {name : String} {s : Schema} (hs : (name, s) ∈ members) : s.selfContained = true := by
  induction members with
  | nil => cases hs
  | cons entry rest ih =>
    obtain ⟨k, x⟩ := entry
    rw [membersSelfContained, Bool.and_eq_true] at h
    rcases List.mem_cons.mp hs with hs | hs
    · cases hs
      exact h.1
    · exact ih h.2 hs

theorem self_contained_entry {entries : Entries} (h : entriesSelfContained entries = true)
    {key : String} {x : Json} (hx : (key, x) ∈ entries) :
    referring.contains key = false ∧
      ((shapeOf? key = some .schema ∨ shapeOf? key = some .schemas) → selfContained x = true) ∧
      (shapeOf? key = some .schemaMap → mapSelfContained x = true) := by
  induction entries with
  | nil => cases hx
  | cons entry rest ih =>
    obtain ⟨k, y⟩ := entry
    unfold entriesSelfContained at h
    rw [Bool.and_eq_true, Bool.and_eq_true] at h
    obtain ⟨⟨hk, hy⟩, hrest⟩ := h
    rcases List.mem_cons.mp hx with he | hx
    · cases he
      refine ⟨by simpa using hk, ?_, ?_⟩
      · rintro (hs | hs) <;> rw [hs] at hy <;> exact hy
      · intro hs
        rw [hs] at hy
        exact hy
    · exact ih hrest hx

theorem self_contained_part {entries : Entries} (h : selfContained (.obj entries) = true)
    {s : Schema} (hs : PartOf entries s) : s.selfContained = true := by
  rw [selfContained] at h
  cases hs with
  | value shape entry => exact (self_contained_entry h entry).2.1 (.inl shape)
  | item shape entry item =>
    have ha := (self_contained_entry h entry).2.1 shape
    rw [selfContained] at ha
    exact self_contained_item ha item
  | member shape entry member =>
    have hm := (self_contained_entry h entry).2.2 shape
    rw [mapSelfContained] at hm
    exact self_contained_member hm member

theorem no_reference {entries : Entries} (h : selfContained (.obj entries) = true)
    {k : Keyword Schema} (hk : k ∈ Keyword.ofEntries entries) (r : String) :
    k ≠ .reference r := by
  rintro rfl
  obtain ⟨key, value, hm, hr⟩ := mem_of_entries.mp hk
  have hname := (read_found hm hr).1
  rw [selfContained] at h
  have hfree := (self_contained_entry h hm).1
  rw [← hname] at hfree
  exact absurd hfree (show ¬referring.contains "$ref" = false by decide)

end Schema

end CallContract
