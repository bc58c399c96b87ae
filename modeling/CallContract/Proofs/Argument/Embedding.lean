import CallContract.Proofs.Argument.Form
import CallContract.Proofs.Schema.Embedded

/-!
# Declared schemas in the input schema

The input schema of a form holds the declared schemas, with their references as
they are. It is a schema if all of them are and each reference leads in it to
what it leads to in the declared schema. The other way round, the declared
schemas are sound in an input that is a schema, save what splicing leaves out.
-/

set_option autoImplicit false

namespace CallContract

namespace Demand

def MetBut (d : Demand) (i : Nat) (args : List Json) : Prop :=
  (∀ (j : Nat) (s : Schema) (x : Json), j ≠ i → d.regular[j]? = some s → args[j]? = some x →
    s.accepts x = true) ∧
  match d.tail with
  | none => args.length = d.regular.length
  | some t =>
    d.regular.length ≤ args.length ∧ t.accepts (.arr (args.drop d.regular.length)) = true

theorem met_iff_slot {d : Demand} {i : Nat} {args : List Json} {s : Schema} {x : Json}
    (hs : d.regular[i]? = some s) (hx : args[i]? = some x) :
    d.Met args ↔ d.MetBut i args ∧ s.accepts x = true := by
  constructor
  · rintro ⟨hall, hrest⟩
    exact ⟨⟨fun j t y _ => hall j t y, hrest⟩, hall i s x hs hx⟩
  · rintro ⟨⟨hall, hrest⟩, ha⟩
    refine ⟨fun j t y ht hy => ?_, hrest⟩
    by_cases hj : j = i
    · subst hj
      cases hs.symm.trans ht
      cases hx.symm.trans hy
      exact ha
    · exact hall j t y hj ht hy

end Demand

namespace ArgumentForm

variable {types : Registry} {slots : List Slot} {form : ArgumentForm}

theorem check_of_head (h : form.input = form.head) :
    form.input.check = .ok () ↔ ∀ b ∈ form.regular, form.input.SoundIn b.schema := by
  have hcheck : form.input.check = .ok () ↔
      ∀ e, e ∈ form.regular.map (fun b => Schema.titled b.name b.schema) ∨ e = .bool false →
        form.input.SoundIn e := by
    rw [h, head_eq]
    exact Schema.check_bounded_array
  rw [hcheck]
  constructor
  · exact fun hall b hb => (Schema.sound_in_titled b.name).mp
      (hall _ (.inl (List.mem_map.mpr ⟨b, hb, rfl⟩)))
  · rintro hall e (he | rfl)
    · obtain ⟨b, hb, rfl⟩ := List.mem_map.mp he
      exact (Schema.sound_in_titled b.name).mpr (hall b hb)
    · exact Schema.sound_in_bool _ false

theorem sound_in_of_check (h : build types slots = .ok form) (hc : form.input.check = .ok ())
    {b : Binding} (hb : b ∈ form.regular) : form.input.SoundIn b.schema := by
  obtain ⟨demand, -, -, -, hinput⟩ := build_demand h
  cases ht : demand.tail with
  | none =>
    rw [ht] at hinput
    exact (check_of_head hinput).mp hc b hb
  | some t =>
    rw [ht] at hinput
    have hall := ((Schema.check_concat hinput (elements_of_head form)).mp hc).1
    exact (Schema.sound_in_titled b.name).mp (hall _ (List.mem_map.mpr ⟨b, hb, rfl⟩))

/-- The input is a schema if all declared schemas are and refer to the same in it. -/
theorem check_of_kept (h : build types slots = .ok form) {demand : Demand}
    (hd : Slot.demand? types slots = some demand)
    (hk : ∀ slot ∈ slots, ∀ s ∈ slot.schema? types, s.keys.Nodup)
    (hs : ∀ s ∈ demand.schemas, s.check = .ok () ∧ Schema.Kept s form.input s) :
    form.input.check = .ok () := by
  obtain ⟨found, hd', hregular, -, hinput⟩ := build_demand h
  obtain rfl := Option.some.inj (hd.symm.trans hd')
  obtain ⟨hsregular, hstail⟩ := Demand.forall_schemas.mp hs
  have hsound (b : Binding) (hb : b ∈ form.regular) : form.input.SoundIn b.schema := by
    obtain ⟨hc, hkept⟩ := hsregular b.schema (hregular ▸ List.mem_map_of_mem hb)
    exact Schema.sound_in_kept hkept ((Schema.check_iff _).mp hc)
  cases ht : demand.tail with
  | none =>
    rw [ht] at hinput
    exact (check_of_head hinput).mpr hsound
  | some t =>
    rw [ht] at hinput
    obtain ⟨hc, hkept⟩ := hstail t ht
    refine Schema.check_of_tail hinput (elements_of_head form) (fun e he => ?_)
      (keys_of_tail hd hk t ht) hkept hc
    obtain ⟨b, hb, rfl⟩ := List.mem_map.mp he
    exact (Schema.sound_in_titled b.name).mpr (hsound b hb)

theorem schema_of_rest {i : Nat} {parts : Parts} (h : partsFrom types i slots = .ok parts)
    {b : Binding} {tail : Schema} (hb : parts.rest = some (b, tail)) :
    b.schema = Schema.any ∨ tail = b.schema := by
  obtain ⟨slot, -, -, -, ht⟩ := slot_of_rest h hb
  rcases tail_of_ok ht with ⟨hany, -⟩ | ⟨-, -, htail⟩
  · exact .inl (any_iff.mp hany)
  · exact .inr htail

/-- The schema of the rest is a schema if the input is, unless splicing has changed what it refers
to or left out what is wrong with it. -/
theorem check_of_rest (h : build types slots = .ok form) (hc : form.input.check = .ok ())
    {b : Binding} (hb : b ∈ form.rest) (hn : b.schema.keys.Nodup) (ht : b.schema.Tidy)
    (hk : Schema.Kept form.input b.schema b.schema) : b.schema.check = .ok () := by
  obtain ⟨-, parts, hp, hinput, -, hrest⟩ := build_ok h
  rw [hrest] at hb
  obtain ⟨⟨_, tail⟩, hr, rfl⟩ := Option.map_eq_some_iff.mp hb
  rcases schema_of_rest hp hr with hany | rfl
  · rw [hany]
    exact (Schema.check_iff _).mpr (Schema.sound_in_bool _ true)
  · unfold Parts.input at hinput
    rw [hr] at hinput
    exact Schema.check_tail hinput hc hn ht hk

end ArgumentForm

end CallContract
