import CallContract.Proofs.Argument.Error
import CallContract.Proofs.Declaration.Slot

/-!
# What a declared function becomes

A declaration is converted if the fields of its slots go together at every depth,
and what it becomes is told by a relation between declared slots and slots: names,
nesting, schemas and types are kept, nested slots are regular, and of an arity only
the slot that is declared for the rest takes the rest, as the last. So no list of
slots that is converted has a slot for the rest in a wrong place. Where a conversion
fails, the error is for the first arity with a slot that does not fit.
-/

set_option autoImplicit false

namespace CallContract

namespace DeclaredSlot

def Fits (s : DeclaredSlot) : Prop :=
  s.name.isSome = s.args.isNone ∧ (s.schema = none ∨ s.type = none)

inductive Within (s : DeclaredSlot) : DeclaredSlot → Prop where
  | self : Within s s
  | inside {outer inner : DeclaredSlot} {args : List DeclaredSlot} (h : Within s outer)
      (hargs : outer.args = some args) (hmem : inner ∈ args) : Within s inner

inductive TypedAs : Option Schema → Option String → Typing → Prop where
  | bare : TypedAs none none .none
  | schema (s : Schema) : TypedAs (some s) none (.schema s)
  | type (name : String) : TypedAs none (some name) (.type (.named name))

inductive Becomes : Role → DeclaredSlot → Slot → Prop where
  | named {role : Role} {name : String} {schema : Option Schema} {type : Option String}
      {typing : Typing} (htyping : TypedAs schema type typing) :
      Becomes role ⟨some name, schema, type, none⟩ (.named name typing role)
  /-- Nested slots are regular, whatever the role of the slot around them. -/
  | nested {role : Role} {schema : Option Schema} {type : Option String}
      {args : List DeclaredSlot} {typing : Typing} {inner : List Slot}
      (hargs : List.Forall₂ (Becomes .regular) args inner)
      (htyping : TypedAs schema type typing) :
      Becomes role ⟨none, schema, type, some args⟩ (.nested inner typing role)

theorem Within.trans {s t u : DeclaredSlot} (h : s.Within t) (h' : t.Within u) : s.Within u := by
  induction h' with
  | self => exact h
  | inside _ hargs hmem ih => exact .inside ih hargs hmem

theorem all_well_formed_iff {slots : List DeclaredSlot} :
    allWellFormed slots = true ↔ ∀ s ∈ slots, s.wellFormed = true := by
  induction slots with
  | nil => simp [allWellFormed]
  | cons s more ih => rw [allWellFormed, Bool.and_eq_true, ih, List.forall_mem_cons]

theorem well_formed_iff_fits {s : DeclaredSlot} : s.wellFormed = true ↔
    s.Fits ∧ ∀ args, s.args = some args → ∀ inner ∈ args, inner.wellFormed = true := by
  obtain ⟨name, schema, type, args⟩ := s
  rw [Fits]
  cases args with
  | none =>
    rw [wellFormed]
    cases name <;> cases schema <;> cases type <;> simp
  | some args =>
    rw [wellFormed, Bool.and_eq_true, Bool.and_eq_true, all_well_formed_iff]
    cases name <;> cases schema <;> cases type <;> simp

theorem fits_of_well_formed {s inner : DeclaredSlot} (hs : s.wellFormed = true)
    (h : s.Within inner) : inner.Fits := by
  have hinner : inner.wellFormed = true := by
    induction h with
    | self => exact hs
    | inside _ hargs hmem ih => exact (well_formed_iff_fits.mp ih).2 _ hargs _ hmem
  exact (well_formed_iff_fits.mp hinner).1

mutual

theorem well_formed_of_fits (s : DeclaredSlot) (h : ∀ inner, s.Within inner → inner.Fits) :
    s.wellFormed = true := by
  match s with
  | ⟨name, schema, type, none⟩ =>
    exact well_formed_iff_fits.mpr ⟨h _ .self, fun _ hargs => nomatch hargs⟩
  | ⟨name, schema, type, some args⟩ =>
    refine well_formed_iff_fits.mpr ⟨h _ .self, fun found hargs => ?_⟩
    obtain rfl := Option.some.inj hargs
    exact all_well_formed_iff.mp (all_well_formed_of_fits args fun s hs inner hin =>
      h inner ((Within.inside .self rfl hs).trans hin))

theorem all_well_formed_of_fits (slots : List DeclaredSlot)
    (h : ∀ s ∈ slots, ∀ inner, s.Within inner → inner.Fits) : allWellFormed slots = true := by
  match slots with
  | [] => rw [allWellFormed]
  | s :: more =>
    rw [allWellFormed, Bool.and_eq_true]
    exact ⟨well_formed_of_fits s (h s List.mem_cons_self),
      all_well_formed_of_fits more fun s hs => h s (List.mem_cons_of_mem _ hs)⟩

end

theorem well_formed_iff {s : DeclaredSlot} :
    s.wellFormed = true ↔ ∀ inner, s.Within inner → inner.Fits :=
  ⟨fun hs _ h => fits_of_well_formed hs h, well_formed_of_fits s⟩

theorem typing_iff {schema : Option Schema} {type : Option String} {found : Typing} :
    typing schema type = .ok found ↔ TypedAs schema type found := by
  constructor
  · intro h
    unfold typing at h
    split at h <;> cases h
    · exact .schema _
    · exact .type _
    · exact .bare
  · rintro (_ | _ | _) <;> rfl

mutual

theorem to_slot_iff (role : Role) (s : DeclaredSlot) (slot : Slot) :
    toSlot role s = .ok slot ↔ Becomes role s slot := by
  match s with
  | ⟨some _, _, _, some _⟩ =>
    rw [toSlot]
    exact iff_of_false (fun h => nomatch h) (fun h => nomatch h)
  | ⟨none, _, _, none⟩ =>
    rw [toSlot]
    exact iff_of_false (fun h => nomatch h) (fun h => nomatch h)
  | ⟨some name, schema, type, none⟩ =>
    rw [toSlot]
    constructor
    · intro h
      obtain ⟨found, htyping, h⟩ := bind_ok.mp h
      cases h
      exact .named (typing_iff.mp htyping)
    · rintro ⟨htyping⟩
      exact bind_ok.mpr ⟨_, typing_iff.mpr htyping, rfl⟩
  | ⟨none, schema, type, some args⟩ =>
    rw [toSlot]
    constructor
    · intro h
      obtain ⟨inner, hargs, h⟩ := bind_ok.mp h
      obtain ⟨found, htyping, h⟩ := bind_ok.mp h
      cases h
      exact .nested ((to_slots_iff args inner).mp hargs) (typing_iff.mp htyping)
    · rintro (_ | ⟨hargs, htyping⟩)
      exact bind_ok.mpr ⟨_, (to_slots_iff args _).mpr hargs,
        bind_ok.mpr ⟨_, typing_iff.mpr htyping, rfl⟩⟩

theorem to_slots_iff (slots : List DeclaredSlot) (found : List Slot) :
    toSlots slots = .ok found ↔ List.Forall₂ (Becomes .regular) slots found := by
  match slots with
  | [] =>
    rw [toSlots, List.forall₂_nil_left_iff, Except.ok.injEq]
    exact eq_comm
  | s :: more =>
    rw [toSlots, List.forall₂_cons_left_iff]
    constructor
    · intro h
      obtain ⟨slot, hs, h⟩ := bind_ok.mp h
      obtain ⟨rest, hm, h⟩ := bind_ok.mp h
      cases h
      exact ⟨slot, rest, (to_slot_iff .regular s slot).mp hs, (to_slots_iff more rest).mp hm, rfl⟩
    · rintro ⟨slot, rest, hs, hm, rfl⟩
      exact bind_ok.mpr ⟨slot, (to_slot_iff .regular s slot).mpr hs,
        bind_ok.mpr ⟨rest, (to_slots_iff more rest).mpr hm, rfl⟩⟩

end

theorem becomes_of_mem {role : Role} {slots : List DeclaredSlot} {found : List Slot}
    (h : List.Forall₂ (Becomes role) slots found) {slot : Slot} (hmem : slot ∈ found) :
    ∃ s, Becomes role s slot := by
  obtain ⟨i, hi, rfl⟩ := List.getElem_of_mem hmem
  exact ⟨_, h.get (h.length_eq ▸ hi) hi⟩

end DeclaredSlot

open DeclaredSlot

namespace DeclaredArity

def Fits (a : DeclaredArity) : Prop :=
  ∀ s ∈ a.args ++ a.rest.toList, ∀ inner, s.Within inner → inner.Fits

def Becomes (a : DeclaredArity) (slots : List Slot) : Prop :=
  ∃ regular rest, slots = regular ++ rest ∧
    List.Forall₂ (DeclaredSlot.Becomes .regular) a.args regular ∧
    List.Forall₂ (DeclaredSlot.Becomes .rest) a.rest.toList rest

theorem well_formed_iff {a : DeclaredArity} : a.wellFormed = true ↔ a.Fits := by
  obtain ⟨args, rest⟩ := a
  rw [wellFormed, Bool.and_eq_true, all_well_formed_iff, Fits]
  cases rest <;> simp [DeclaredSlot.well_formed_iff, or_imp, forall_and]

theorem to_slots_iff {a : DeclaredArity} {slots : List Slot} :
    a.toSlots = .ok slots ↔ a.Becomes slots := by
  obtain ⟨args, rest⟩ := a
  cases rest with
  | none =>
    constructor
    · intro h
      obtain ⟨_, hargs, h⟩ := bind_ok.mp h
      cases h
      exact ⟨slots, [], (List.append_nil _).symm, (DeclaredSlot.to_slots_iff _ _).mp hargs, .nil⟩
    · rintro ⟨regular, rest, rfl, hargs, hrest⟩
      obtain rfl := List.forall₂_nil_left_iff.mp hrest
      rw [List.append_nil]
      exact bind_ok.mpr ⟨regular, (DeclaredSlot.to_slots_iff _ _).mpr hargs, rfl⟩
  | some s =>
    constructor
    · intro h
      obtain ⟨regular, hargs, h⟩ := bind_ok.mp h
      obtain ⟨slot, hrest, h⟩ := bind_ok.mp h
      cases h
      exact ⟨regular, [slot], rfl, (DeclaredSlot.to_slots_iff _ _).mp hargs,
        .cons ((to_slot_iff _ _ _).mp hrest) .nil⟩
    · rintro ⟨regular, rest, rfl, hargs, hrest⟩
      obtain ⟨slot, _, hslot, ⟨⟩, rfl⟩ := List.forall₂_cons_left_iff.mp hrest
      exact bind_ok.mpr ⟨regular, (DeclaredSlot.to_slots_iff _ _).mpr hargs,
        bind_ok.mpr ⟨slot, (to_slot_iff _ _ _).mpr hslot, rfl⟩⟩

end DeclaredArity

namespace Slot

variable {regular rest slots list : List Slot}

theorem in_order_append (hregular : ∀ slot ∈ regular, slot.isRest = false)
    (hrest : rest.length ≤ 1) : ¬OutOfOrder (regular ++ rest) := by
  rintro (hseveral | ⟨i, slot, hslot, hfor, hlast⟩)
  · have hnone : regular.countP isRest = 0 :=
      List.countP_eq_zero.mpr fun slot hs => by simp [hregular slot hs]
    have hfew : rest.countP isRest ≤ rest.length := List.countP_le_length
    rw [List.countP_append] at hseveral
    omega
  · rw [List.length_append] at hlast
    rw [List.getElem?_append_left (by omega)] at hslot
    rw [hregular slot (List.mem_of_getElem? hslot)] at hfor
    cases hfor

theorem nested_of_list_in (hslots : ∀ slot ∈ slots, ∃ role s, DeclaredSlot.Becomes role s slot)
    (hin : ListIn slots list) :
    list = slots ∨ ∃ args, List.Forall₂ (DeclaredSlot.Becomes .regular) args list := by
  induction hin with
  | self => exact .inl rfl
  | @inside outer _ _ _ _ hmem ih =>
    have houter : ∀ slot ∈ outer, ∃ role s, DeclaredSlot.Becomes role s slot := by
      rcases ih with rfl | ⟨args, hargs⟩
      · exact hslots
      · exact fun slot hslot => ⟨.regular, becomes_of_mem hargs hslot⟩
    obtain ⟨_, _, _ | ⟨hargs, -⟩⟩ := houter _ hmem
    exact .inr ⟨_, hargs⟩

/-- The slots that an arity becomes are in order at every depth. -/
theorem in_order_of_becomes {a : DeclaredArity} (h : a.Becomes slots) (hin : ListIn slots list) :
    ¬OutOfOrder list := by
  obtain ⟨regular, rest, rfl, hargs, hrest⟩ := h
  have hregular {args : List DeclaredSlot} {list : List Slot}
      (h : List.Forall₂ (DeclaredSlot.Becomes .regular) args list) :
      ∀ slot ∈ list, slot.isRest = false :=
    (regular_of_to_slots ((DeclaredSlot.to_slots_iff args list).mpr h)).2
  have hslots : ∀ slot ∈ regular ++ rest, ∃ role s, DeclaredSlot.Becomes role s slot := by
    intro slot hmem
    rcases List.mem_append.mp hmem with hmem | hmem
    · exact ⟨.regular, becomes_of_mem hargs hmem⟩
    · exact ⟨.rest, becomes_of_mem hrest hmem⟩
  rcases nested_of_list_in hslots hin with rfl | ⟨args, hnested⟩
  · refine in_order_append (hregular hargs) ?_
    rw [← hrest.length_eq]
    exact Option.length_toList_le
  · have h : ¬OutOfOrder (list ++ []) := in_order_append (hregular hnested) (Nat.zero_le 1)
    rwa [List.append_nil] at h

end Slot

namespace DeclaredFunction

variable {σ : Type}

/-- What a declared function becomes: a function whose every arity gives one result, with the slots
that the arity becomes and no conditions. -/
structure Becomes (f : DeclaredFunction) (result : Json) (d : FunctionDef σ) : Prop where
  name : d.name = f.name
  output : d.output = f.output.getD Schema.any
  tags : d.tags = f.tags
  arities : List.Forall₂ (fun a b => a.Becomes b.slots ∧
    b.body = .const result ∧ b.pre = [] ∧ b.post = []) f.arities d.arities

theorem bodies_from_iff {f : DeclaredFunction} {result : Json} {i : Nat}
    {arities : List DeclaredArity} {bodies : List (ArityBody σ)} :
    f.bodiesFrom result i arities = .ok bodies ↔ List.Forall₂ (fun a b => a.Becomes b.slots ∧
      b.body = .const result ∧ b.pre = [] ∧ b.post = []) arities bodies := by
  induction arities generalizing i bodies with
  | nil =>
    rw [bodiesFrom, List.forall₂_nil_left_iff, Except.ok.injEq]
    exact eq_comm
  | cons a more ih =>
    rw [bodiesFrom, List.forall₂_cons_left_iff]
    constructor
    · intro h
      obtain ⟨slots, hslots, h⟩ := bind_ok.mp h
      obtain ⟨rest, hrest, h⟩ := bind_ok.mp h
      cases h
      exact ⟨_, rest, ⟨DeclaredArity.to_slots_iff.mp (map_error_ok.mp hslots), rfl, rfl, rfl⟩,
        ih.mp hrest, rfl⟩
    · rintro ⟨⟨slots, body, pre, post⟩, rest, ⟨hslots, rfl, rfl, rfl⟩, hrest, rfl⟩
      exact bind_ok.mpr ⟨slots, map_error_ok.mpr (DeclaredArity.to_slots_iff.mpr hslots),
        bind_ok.mpr ⟨rest, ih.mpr hrest, rfl⟩⟩

theorem to_def_iff {f : DeclaredFunction} {result : Json} {d : FunctionDef σ} :
    f.toDef result = .ok d ↔ f.Becomes result d := by
  constructor
  · intro h
    obtain ⟨bodies, hbodies, h⟩ := bind_ok.mp h
    cases h
    exact ⟨rfl, rfl, rfl, bodies_from_iff.mp hbodies⟩
  · obtain ⟨name, output, tags, arities⟩ := d
    rintro ⟨rfl, rfl, rfl, harities⟩
    exact bind_ok.mpr ⟨arities, bodies_from_iff.mpr harities, rfl⟩

/-- A failure is that of the first arity that does not fit. -/
theorem bodies_from_error {f : DeclaredFunction} {result : Json} {i : Nat}
    {arities : List DeclaredArity} {e : ArityError}
    (h : f.bodiesFrom (σ := σ) result i arities = .error e) :
    e.function = f.name ∧ ∃ before a after, arities = before ++ a :: after ∧
      e.index = i + before.length ∧ (∀ c ∈ before, c.Fits) ∧ ¬a.Fits := by
  induction arities generalizing i with
  | nil => cases h
  | cons a more ih =>
    cases hslots : a.toSlots with
    | error cause =>
      rw [bodiesFrom, hslots] at h
      cases h
      refine ⟨rfl, [], a, more, rfl, rfl, fun _ hc => (List.not_mem_nil hc).elim, fun hfits => ?_⟩
      obtain ⟨_, hok⟩ := (DeclaredArity.to_slots_ok a).mpr (DeclaredArity.well_formed_iff.mpr hfits)
      rw [hslots] at hok
      cases hok
    | ok slots =>
      have hfits : a.Fits :=
        DeclaredArity.well_formed_iff.mp ((DeclaredArity.to_slots_ok a).mp ⟨slots, hslots⟩)
      have hmore : f.bodiesFrom (σ := σ) result (i + 1) more = .error e := by
        rw [bodiesFrom, hslots] at h
        rcases bind_error.mp h with h | ⟨_, -, h⟩
        · cases h
        · rcases bind_error.mp h with h | ⟨_, -, h⟩
          · exact h
          · cases h
      obtain ⟨hname, before, b, after, rfl, hindex, hbefore, hb⟩ := ih hmore
      refine ⟨hname, a :: before, b, after, rfl, ?_, List.forall_mem_cons.mpr ⟨hfits, hbefore⟩, hb⟩
      rw [hindex, List.length_cons]
      omega

theorem to_def_error {f : DeclaredFunction} {result : Json} {e : ArityError}
    (h : f.toDef (σ := σ) result = .error e) :
    e.function = f.name ∧ ∃ before a after, f.arities = before ++ a :: after ∧
      e.index = before.length ∧ (∀ c ∈ before, c.Fits) ∧ ¬a.Fits := by
  rcases bind_error.mp h with h | ⟨_, -, h⟩
  · simpa using bodies_from_error h
  · cases h

theorem to_def_ok_iff (f : DeclaredFunction) (result : Json) :
    (∃ d : FunctionDef σ, f.toDef result = .ok d) ↔ ∀ a ∈ f.arities, a.Fits := by
  have hfits : (∀ a ∈ f.arities, a.Fits) ↔ f.arities.all (·.wellFormed) = true := by
    simp only [List.all_eq_true, DeclaredArity.well_formed_iff]
  rw [hfits, ← bodies_from_ok (σ := σ) f result 0]
  exact exists_and_then

theorem compile_placed {f : DeclaredFunction} {result : Json} {d : FunctionDef σ}
    (h : f.toDef result = .ok d) (config : Config) (types : Registry) (cause : Slot.Misplacement) :
    d.compile config types ≠ .error (.form (.misplacedRest cause)) := by
  intro he
  have hflaw := List.mem_of_head? ((d.compile_fails config types _).mp he)
  obtain ⟨b, hb, hbuild⟩ := FunctionDef.form_of_mem hflaw
  obtain ⟨list, hlist, hout⟩ := ArgumentForm.build_misplaced.mp ⟨cause, hbuild⟩
  obtain ⟨bodies, hbodies, hd⟩ := bind_ok.mp h
  cases hd
  obtain ⟨a, -, slots, hslots, rfl⟩ := (mem_bodies hbodies b).mp hb
  exact Slot.in_order_of_becomes (DeclaredArity.to_slots_iff.mp hslots) hlist hout

/-- A declared function is converted if all its slots fit, to what it says and to nothing that is
refused for a misplaced slot; otherwise the error is for the first arity that does not fit. -/
theorem to_def_faithful (f : DeclaredFunction) (result : Json) :
    ((∃ d : FunctionDef σ, f.toDef result = .ok d) ↔ ∀ a ∈ f.arities, a.Fits) ∧
    (∀ e, f.toDef (σ := σ) result = .error e →
      e.function = f.name ∧ ∃ before a after, f.arities = before ++ a :: after ∧
        e.index = before.length ∧ (∀ c ∈ before, c.Fits) ∧ ¬a.Fits) ∧
    (∀ d : FunctionDef σ, f.toDef result = .ok d ↔ f.Becomes result d) ∧
    ∀ d : FunctionDef σ, f.toDef result = .ok d →
      ∀ (config : Config) (types : Registry) (cause : Slot.Misplacement),
        d.compile config types ≠ .error (.form (.misplacedRest cause)) :=
  ⟨to_def_ok_iff f result, fun _ => to_def_error, fun _ => to_def_iff, fun _ => compile_placed⟩

end DeclaredFunction

def moveDeclared : DeclaredFunction :=
  ⟨"move", none, ⟨false, false⟩, [⟨[⟨some "p", none, some "Point", none⟩,
    ⟨none, none, none, some [⟨some "a", none, none, none⟩, ⟨some "b", none, none, none⟩]⟩],
    some ⟨some "more", some (.obj [("type", .str "array")]), none, none⟩⟩]⟩

def ambiguousDeclared : DeclaredFunction :=
  ⟨"ambiguous", none, ⟨false, false⟩, [⟨[], none⟩,
    ⟨[⟨none, none, none, some [⟨some "x", some (.bool true), some "Point", none⟩]⟩], none⟩]⟩

theorem to_def_faithful_move :
    let array : Schema := .obj [("type", .str "array")]
    let d : FunctionDef Unit := ⟨"move", Schema.any, ⟨false, false⟩,
      [⟨[.named "p" (.type (.named "Point")) .regular,
        .nested [.named "a" .none .regular, .named "b" .none .regular] .none .regular,
        .named "more" (.schema array) .rest], .const .null, [], []⟩]⟩
    moveDeclared.toDef .null = .ok d ∧
      (∀ cause, d.compile .enabled .empty ≠ .error (.form (.misplacedRest cause))) ∧
      ∃ before a after, ambiguousDeclared.arities = before ++ a :: after ∧
        before.length = 1 ∧ ¬a.Fits := by
  intro array d
  obtain ⟨-, -, hbecomes, hplaced⟩ :=
    DeclaredFunction.to_def_faithful (σ := Unit) moveDeclared .null
  have hd : moveDeclared.toDef .null = .ok d := by
    refine (hbecomes d).mpr
      ⟨rfl, rfl, rfl, .cons ⟨⟨[_, _], [_], rfl, ?_, ?_⟩, rfl, rfl, rfl⟩ .nil⟩
    · exact .cons (.named (.type _)) (.cons (.nested (.cons (.named .bare)
        (.cons (.named .bare) .nil)) .bare) .nil)
    · exact .cons (.named (.schema _)) .nil
  obtain ⟨-, hfailed, -⟩ := DeclaredFunction.to_def_faithful (σ := Unit) ambiguousDeclared .null
  have he : ambiguousDeclared.toDef (σ := Unit) .null =
      .error ⟨"ambiguous", 1, .schemaAndType⟩ := rfl
  obtain ⟨-, before, a, after, harities, hindex, -, ha⟩ := hfailed _ he
  exact ⟨hd, hplaced d hd .enabled .empty, before, a, after, harities, hindex.symm, ha⟩

end CallContract
