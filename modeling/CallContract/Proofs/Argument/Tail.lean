import CallContract.Proofs.Argument.Form

/-!
# Tails that are no tuples

Splicing asks that the schema of the rest is a tuple. What a form is made of
beside that is: its regular arguments are, and so is the form of a nested list.
A schema that is refused for this reason was declared for the rest, in the list
itself or in the nested lists that stand for the rest.
-/

set_option autoImplicit false

namespace CallContract

namespace Slot

/-- A schema is declared for the rest of a list: of the list itself, or of a nested one that is to
take the rest. -/
inductive DeclaredTail (types : Registry) : List Slot → Schema → Prop where
  | here {slots : List Slot} {slot : Slot} {s : Schema} (hmem : slot ∈ slots)
      (hrest : slot.isRest = true) (hs : slot.schema? types = some s) (hany : s.isAny = false) :
      DeclaredTail types slots s
  | inside {slots inner : List Slot} {typing : Typing} {s : Schema}
      (hmem : .nested inner typing .rest ∈ slots) (hs : DeclaredTail types inner s) :
      DeclaredTail types slots s

variable {types : Registry} {slots more : List Slot} {slot : Slot} {s : Schema}

theorem DeclaredTail.cons (h : DeclaredTail types more s) :
    DeclaredTail types (slot :: more) s := by
  cases h with
  | here hmem hrest hs hany => exact .here (List.mem_cons_of_mem _ hmem) hrest hs hany
  | inside hmem hs => exact .inside (List.mem_cons_of_mem _ hmem) hs

structure LooseTail (types : Registry) (slots : List Slot) (s : Schema) : Prop where
  declared : DeclaredTail types slots s
  isSequence : s.isSequence = true
  noElements : s.elements? = none

theorem LooseTail.cons (h : LooseTail types more s) : LooseTail types (slot :: more) s :=
  ⟨h.declared.cons, h.isSequence, h.noElements⟩

end Slot

namespace Schema

/-- Splicing a sequence behind a tuple is refused for lack of elements of the sequence only. -/
theorem not_a_tuple_of_concat {head tail s : Schema} {first : List Schema}
    (hf : head.elements? = some first) (h : concat head tail = .error (.notATuple s)) :
    s = tail ∧ tail.elements? = none := by
  have hbound {offset : Nat} {t : Schema} {keyword : String} :
      boundBehind offset t keyword ≠ .error (.notATuple s) := by
    intro h
    rcases bound_behind_error h with h | ⟨h, -⟩
    · cases count_error h
    · cases h
  rcases bind_error.mp h with h | ⟨_, -, h⟩
  · rw [elementsOf, hf] at h
    cases h
  rcases bind_error.mp h with h | ⟨_, -, h⟩
  · unfold elementsOf at h
    split at h
    · cases h
    · rename_i ht
      cases h
      exact ⟨rfl, ht⟩
  · split at h
    · cases h
    · rcases bind_error.mp h with h | ⟨_, -, h⟩
      · exact absurd h hbound
      · rcases bind_error.mp h with h | ⟨_, -, h⟩
        · exact absurd h hbound
        · cases h

end Schema

namespace ArgumentForm

open Slot

variable {types : Registry} {slots more : List Slot} {slot : Slot} {s : Schema} {i : Nat}
  {cause : SchemaError}

theorem elements_head (p : Parts) : ∃ elements, Schema.elements? p.head = some elements :=
  ⟨_, (congrArg _ (head_eq ⟨p.regular, none, Schema.any⟩)).trans Schema.elements_bounded_array⟩

theorem elements_of_input {p : Parts} (h : p.input = .ok s) :
    ∃ elements, s.elements? = some elements := by
  unfold Parts.input at h
  split at h
  · cases h
    exact elements_head p
  · obtain ⟨_, _, _, _, -, -, -, -, -, rfl⟩ := Schema.concat_ok h
    exact ⟨_, Schema.elements_bounded_array⟩

theorem elements_of_inner (h : inner types slot = .ok s) :
    ∃ elements, s.elements? = some elements := by
  cases slot with
  | named =>
    cases h
    exact ⟨[], rfl⟩
  | nested slots =>
    dsimp only [inner] at h
    split at h
    · exact elements_of_input (map_error_ok.mp h)
    · cases h

theorem schema_of_resolve_error {name : String} {typing : Typing} {e : FormError}
    (h : resolve types name typing = .error e) : ∃ t, e = .unknownType t name := by
  unfold resolve at h
  split at h
  · cases h
  · cases h
  · split at h
    · cases h
    · cases h
      exact ⟨_, rfl⟩

theorem loose_tail_of_parts {parts : Parts} (h : partsFrom types i slots = .ok parts) {b : Binding}
    (hr : parts.rest = some (b, s)) (hs : s.elements? = none) : LooseTail types slots s := by
  obtain ⟨slot, hm, hrole, hschema, ht⟩ := slot_of_rest h hr
  rcases tail_of_ok ht with ⟨-, ht⟩ | ⟨hany, hsequence, htail⟩
  · obtain ⟨_, he⟩ := elements_of_inner ht
    rw [hs] at he
    cases he
  · rw [← htail] at hschema hany hsequence
    exact ⟨.here hm hrole hschema hany, hsequence, hs⟩

theorem loose_tail_of_input {parts : Parts} (h : partsFrom types i slots = .ok parts)
    (hi : parts.input = .error (.notATuple s)) : LooseTail types slots s := by
  unfold Parts.input at hi
  split at hi
  · cases hi
  · rename_i b tail hr
    obtain ⟨_, hhead⟩ := elements_head parts
    obtain ⟨rfl, htail⟩ := Schema.not_a_tuple_of_concat hhead hi
    exact loose_tail_of_parts h hr htail

theorem refused_cons (h : partsFrom types i (slot :: more) = .error (.schema cause)) :
    (slot.isRest = true ∧ inner types slot = .error (.schema cause)) ∨
      partsFrom types (i + 1) more = .error (.schema cause) := by
  cases hr : slot.isRest with
  | false =>
    rw [parts_from_regular types i hr] at h
    rcases bind_error.mp h with h | ⟨_, -, h⟩
    · obtain ⟨_, he⟩ := schema_of_resolve_error h
      cases he
    · rcases bind_error.mp h with h | ⟨_, -, h⟩
      · exact .inr h
      · cases h
  | true =>
    rw [parts_from_rest types i hr] at h
    rcases bind_error.mp h with h | ⟨_, -, h⟩
    · obtain ⟨_, he⟩ := schema_of_resolve_error h
      cases he
    · rcases bind_error.mp h with h | ⟨_, -, h⟩
      · unfold tailOf at h
        split at h
        · exact .inl ⟨rfl, h⟩
        · split at h <;> cases h
      · rcases bind_error.mp h with h | ⟨_, -, h⟩
        · exact .inr h
        · cases h

theorem loose_tail_of_parts_from (h : partsFrom types i slots = .error (.schema (.notATuple s))) :
    LooseTail types slots s := by
  induction i, slots using partsFrom.induct with
  | case1 => rw [partsFrom] at h; cases h
  | case2 i name typing more ih =>
    rcases refused_cons h with ⟨hr, -⟩ | h
    · cases hr
    · exact (ih h).cons
  | case3 i name typing more ih =>
    rcases refused_cons h with ⟨-, h⟩ | h
    · cases h
    · exact (ih h).cons
  | case4 i slots typing more ih =>
    rcases refused_cons h with ⟨hr, -⟩ | h
    · cases hr
    · exact (ih h).cons
  | case5 i slots typing more ihin ih =>
    rcases refused_cons h with ⟨-, h⟩ | h
    · dsimp only [inner] at h
      have hin : LooseTail types slots s := by
        split at h
        · rename_i hp
          obtain ⟨_, h, he⟩ := map_error_error.mp h
          cases he
          exact loose_tail_of_input hp h
        · cases h
          exact ihin ‹_›
      exact ⟨.inside List.mem_cons_self hin.declared, hin.isSequence, hin.noElements⟩
    · exact (ih h).cons

/-- A form is not built for want of a tuple only if a sequence declared for the rest is none. -/
theorem loose_tail_of_build (h : build types slots = .error (.schema (.notATuple s))) :
    LooseTail types slots s := by
  unfold build at h
  split at h
  · cases h
  · rcases bind_error.mp h with h | ⟨parts, hp, h⟩
    · exact loose_tail_of_parts_from h
    · rcases bind_error.mp h with h | ⟨_, -, h⟩
      · obtain ⟨_, h, he⟩ := map_error_error.mp h
        cases he
        exact loose_tail_of_input hp h
      · cases h

end ArgumentForm

end CallContract
