import CallContract.Proofs.Schema.Sequence

/-!
# Documents that hold schemas

Whether an array with bounds is a schema depends on the schemas in it alone, and
a title changes nothing about one. What a sequence asks of its parts is less than
what makes it a schema itself: annotations and an empty `prefixItems` are lost
when it is spliced.
-/

set_option autoImplicit false

namespace CallContract.Schema

open Keyword

variable {root s : Schema} {entries : Entries}

theorem shape_faults_titled (name : String) : shapeFaults (titled name s) = [] ↔
    shapeFaults s = [] := by
  have hshapes : shapeOf? "allOf" = some .schemas ∧ shapeOf? "title" = some .string := ⟨rfl, rfl⟩
  simp [titled_eq, shape_faults_obj, hshapes, faultsAs, item_faults_nil, ifEmpty, plainFaults,
    notOf, Kind.has]

theorem sound_in_of_reads {t : Schema} (hf : shapeFaults t = [] ↔ shapeFaults s = [])
    (ho : ownUses t = []) (hr : ∀ u, Reads t u ↔ u = s) : SoundIn root t ↔ SoundIn root s := by
  constructor
  · rintro ⟨hshapes, hu⟩
    exact ⟨hf.mp hshapes, hu.reached (.part .start ((hr s).mpr rfl))⟩
  · rintro ⟨hshapes, hu⟩
    refine ⟨hf.mpr hshapes, usable_of_parts ho fun u hread => ?_⟩
    rw [(hr u).mp hread]
    exact hu

theorem reads_all_of (h : Keyword.ofEntries entries = [.allOf [s]]) (t : Schema) :
    Reads (.obj entries) t ↔ t = s := by
  rw [reads_obj, h]
  simp [parts]

theorem sound_in_titled (name : String) : SoundIn root (titled name s) ↔ SoundIn root s :=
  sound_in_of_reads (shape_faults_titled name) rfl (reads_all_of rfl)

theorem size_faults_natural (n : Nat) : sizeFaults (.natural n) = [] := by
  simp [sizeFaults, Json.natural, notOf, Kind.has, Number.isIntegral, Number.value]

theorem shape_faults_bounded_array {elements : List Schema} {others : Schema} {least : Nat}
    {most : Option Nat} : shapeFaults (boundedArray elements others least most) = [] ↔
      ∀ s, s ∈ elements ∨ s = others → shapeFaults s = [] := by
  have hshapes : shapeOf? "items" = some .schema ∧ shapeOf? "maxItems" = some .size ∧
      shapeOf? "minItems" = some .size ∧ shapeOf? "prefixItems" = some .schemas ∧
      shapeOf? "type" = some .kinds := ⟨rfl, rfl, rfl, rfl, rfl⟩
  have htype : kindFaults (.str "array") = [] := rfl
  have hparts : (∀ s, s ∈ elements ∨ s = others → shapeFaults s = []) ↔
      shapeFaults others = [] ∧ ∀ s ∈ elements, shapeFaults s = [] := by
    simp only [or_imp, forall_and, forall_eq, and_comm]
  rw [hparts]
  cases most <;> cases elements <;>
    simp [boundedArray, shape_faults_obj, hshapes, faultsAs, item_faults_nil, ifEmpty, plainFaults,
      size_faults_natural, htype]

theorem shape_faults_part (h : shapeFaults (.obj entries) = []) (hs : ItemSchema entries s) :
    shapeFaults s = [] := by
  have hentry {key : String} {x : Json} (hx : entries.lookup key = some x) {shape : Shape}
      (hkey : shapeOf? key = some shape) : faultsAs shape x = [] :=
    shape_faults_obj.mp h _ (Entries.mem_of_lookup hx) shape hkey
  rcases hs with hs | rfl
  · unfold positional at hs
    split at hs
    · rename_i items hx
      have hf := hentry hx (show shapeOf? "prefixItems" = some .schemas from rfl)
      rw [faultsAs, List.append_eq_nil_iff] at hf
      exact item_faults_nil.mp hf.1 s hs
    · cases hs
  · cases hx : entries.lookup "items" with
    | none => rfl
    | some x => exact hentry hx (show shapeOf? "items" = some .schema from rfl)

theorem limit_of_size {x : Json} (h : sizeFaults x = []) :
    ∃ n limit, x = .num n ∧ n.toLimit? = some limit := by
  have hkind : Kind.integer.has x = true := by
    have hnot := (List.append_eq_nil_iff.mp h).2
    unfold notOf at hnot
    split at hnot
    · assumption
    · cases hnot
  cases x with
  | num n =>
    cases n with
    | int i => exact ⟨_, _, rfl, rfl⟩
    | float y => exact ⟨.float y, _, rfl, if_pos hkind⟩
  | _ => cases hkind

theorem own_uses_sequence (h : Movable entries) (hf : shapeFaults (.obj entries) = []) :
    ownUses (.obj entries) = [] := by
  have hkey {key : String} {value : Json} (hm : (key, value) ∈ entries) : key ∈ movable :=
    h.keys key (List.mem_map.mpr ⟨_, hm, rfl⟩)
  refine List.eq_nil_iff_forall_not_mem.mpr fun u hu => ?_
  rcases (mem_entry_uses (f := ownUse)).mp hu with ⟨k, hk, hu⟩ | ⟨key, value, cause, hm, hr, -⟩
  · obtain ⟨key, value, hm, hr⟩ := mem_of_entries.mp hk
    have hmov := hkey hm
    rw [← (read_found hm hr).1] at hmov
    cases k with
    | reference r => exact absurd hmov (show "$ref" ∉ movable by decide)
    | pattern source => exact absurd hmov (show "pattern" ∉ movable by decide)
    | _ => cases hu
  · have hfaults := shape_faults_obj.mp hf _ hm
    have hmov := hkey hm
    simp only [movable, List.mem_cons, List.not_mem_nil, or_false] at hmov
    rcases hmov with rfl | rfl | rfl | rfl | rfl | rfl | rfl | rfl
    · have ht := (Entries.lookup_of_mem h.nodup hm).symm.trans h.isSequence
      cases ht
      cases hr
    · have hlist := hfaults .schemas rfl
      cases value with
      | arr items => cases hr
      | _ => cases hlist
    · rcases bool_or_obj_of_shape (hfaults .schema rfl) with ⟨b, rfl⟩ | ⟨members, rfl⟩
      · cases b <;> cases hr
      · cases hr
    · obtain ⟨n, limit, rfl, hl⟩ := limit_of_size (hfaults .size rfl)
      change ofLimit .minItems (.num n) = _ at hr
      rw [ofLimit, hl] at hr
      cases hr
    · obtain ⟨n, limit, rfl, hl⟩ := limit_of_size (hfaults .size rfl)
      change ofLimit .maxItems (.num n) = _ at hr
      rw [ofLimit, hl] at hr
      cases hr
    all_goals cases hr

theorem reads_or_bool (hf : shapeFaults s = []) (hs : ItemSchema entries s) :
    Reads (.obj entries) s ∨ ∃ b, s = .bool b := by
  refine (reads_of_sequence hs).imp_right fun ho => ?_
  rcases bool_or_obj_of_shape hf with hb | ⟨members, rfl⟩
  · exact hb
  · exact absurd rfl (ho members)

/-- A movable sequence of the right shapes is usable if the schemas in it are. -/
theorem usable_sequence (h : Movable entries) (hf : shapeFaults (.obj entries) = []) :
    Usable root (.obj entries) ↔ ∀ s, ItemSchema entries s → Usable root s := by
  constructor
  · intro hu s hs
    rcases reads_or_bool (shape_faults_part hf hs) hs with hread | ⟨b, rfl⟩
    · exact hu.reached (.part .start hread)
    · exact usable_bool root b
  · intro hparts
    exact usable_of_parts (own_uses_sequence h hf) fun t ht => hparts t (item_of_reads h ht)

theorem check_bounded_array {elements : List Schema} {others : Schema} {least : Nat}
    {most : Option Nat} : check (boundedArray elements others least most) = .ok () ↔
      ∀ s, s ∈ elements ∨ s = others → SoundIn (boundedArray elements others least most) s := by
  have hf : shapeFaults (boundedArray elements others least most) = [] ↔ _ :=
    shape_faults_bounded_array
  rw [check_iff]
  constructor
  · intro h s hs
    have hshapes := hf.mp h.shapes
    obtain ⟨entries, he, hm, rfl, rfl, -, -⟩ :=
      bounded_array_movable elements least most (not_list_of_shape (hshapes others (.inr rfl)))
    rw [he] at h ⊢
    exact ⟨hshapes s hs, (usable_sequence hm h.shapes).mp h.usable s hs⟩
  · intro h
    have hshapes := hf.mpr fun s hs => (h s hs).shapes
    obtain ⟨entries, he, hm, rfl, rfl, -, -⟩ :=
      bounded_array_movable elements least most (not_list_of_shape (h others (.inr rfl)).shapes)
    rw [he] at h hshapes ⊢
    exact ⟨hshapes, (usable_sequence hm hshapes).mpr fun s hs => (h s hs).usable⟩

theorem sound_in_part {other : Schema} (hk : Kept root other (.obj entries))
    (hs : ItemSchema entries s) (h : SoundIn root s) : SoundIn other s := by
  rcases reads_or_bool h.shapes hs with hread | ⟨b, rfl⟩
  · exact sound_in_kept (hk.reached (.part .start hread)) h
  · exact sound_in_bool other b

/-- What is lost of a sequence when it is spliced is as it should be: annotations are texts, and
`prefixItems` is not empty. -/
structure Tidy (s : Schema) : Prop where
  texts : ∀ key ∈ ["title", "description", "$comment"], ∀ x, s.keyword? key = some x →
    ∃ text, x = .str text
  elements : s.keyword? "prefixItems" ≠ some (.arr [])

theorem size_of_count {key : String} {count : Option Nat}
    (h : countOf (.obj entries) key = .ok count) {x : Json} (hx : entries.lookup key = some x) :
    sizeFaults x = [] := by
  unfold countOf at h
  rw [keyword_obj, hx] at h
  cases x with
  | num n =>
    dsimp only at h
    split at h
    · rename_i hn
      cases n with
      | int i =>
        simp only [Number.toCount?] at hn
        split at hn
        · rename_i hi
          simp [sizeFaults, notOf, Kind.has, Number.isIntegral, Number.value, hi.1]
        · cases hn
      | float y => cases hn
    · cases h
  | _ => cases h

theorem shape_faults_spliced {least most : Option Nat} (h : Movable entries)
    (ht : Tidy (.obj entries)) (he : elements? (.obj entries) = some (positional entries))
    (hmin : countOf (.obj entries) "minItems" = .ok least)
    (hmax : countOf (.obj entries) "maxItems" = .ok most)
    (hparts : ∀ s, ItemSchema entries s → shapeFaults s = []) :
    shapeFaults (.obj entries) = [] := by
  rw [shape_faults_obj]
  rintro ⟨key, x⟩ hm shape hs
  have hx : entries.lookup key = some x := Entries.lookup_of_mem h.nodup hm
  have hmov := h.keys key (List.mem_map.mpr ⟨_, hm, rfl⟩)
  simp only [movable, List.mem_cons, List.not_mem_nil, or_false] at hmov
  rcases hmov with rfl | rfl | rfl | rfl | rfl | rfl | rfl | rfl <;> cases hs
  · cases hx.symm.trans h.isSequence
    rfl
  · unfold elements? at he
    rw [keyword_obj, hx] at he
    split at he
    · cases x with
      | arr items =>
        have hitems : positional entries = items := by rw [positional, hx]
        rw [faultsAs, List.append_eq_nil_iff, item_faults_nil]
        refine ⟨fun s hs => hparts s (.inl (hitems ▸ hs)), if_neg fun hempty => ?_⟩
        rw [List.isEmpty_iff.mp hempty] at hx
        exact ht.elements hx
      | _ => cases he
    · cases he
  · exact hparts x (.inr (by rw [hx, Option.getD_some]))
  · exact size_of_count hmin hx
  · exact size_of_count hmax hx
  · obtain ⟨text, rfl⟩ := ht.texts _ (by simp) x hx
    rfl
  · obtain ⟨text, rfl⟩ := ht.texts _ (by simp) x hx
    rfl
  · obtain ⟨text, rfl⟩ := ht.texts _ (by simp) x hx
    rfl

/-- A concatenation is a schema if the elements of its head and the schemas of its tail are sound in
it. -/
theorem check_concat {head tail : Schema} {first : List Schema} (h : concat head tail = .ok s)
    (hf : elements? head = some first) : s.check = .ok () ↔ (∀ e ∈ first, SoundIn s e) ∧
      ∃ entries, tail = .obj entries ∧ ∀ e, ItemSchema entries e → SoundIn s e := by
  obtain ⟨_, second, least, most, hf', hs, -, -, -, hinput⟩ := concat_ok h
  obtain rfl := Option.some.inj (hf.symm.trans hf')
  obtain ⟨entries, rfl, -, rfl⟩ := sequence_of_elements hs
  rw [keyword_obj] at hinput
  have hcheck : s.check = .ok () ↔
      ∀ e, e ∈ first ++ positional entries ∨ e = (entries.lookup "items").getD any →
        SoundIn s e := by
    rw [hinput]
    exact check_bounded_array
  rw [hcheck]
  constructor
  · intro hall
    exact ⟨fun e he => hall e (.inl (List.mem_append_left _ he)), entries, rfl,
      fun e he => hall e (he.imp_left (List.mem_append_right _))⟩
  · rintro ⟨hhead, _, heq, htail⟩ e he
    cases heq
    rcases he with he | he
    · exact (List.mem_append.mp he).elim (hhead e) fun he => htail e (.inl he)
    · exact htail e (.inr he)

/-- A tail that is a schema and means the same in the concatenation gives it no fault. -/
theorem check_of_tail {head tail : Schema} {first : List Schema} (h : concat head tail = .ok s)
    (hf : elements? head = some first) (hfirst : ∀ e ∈ first, SoundIn s e)
    (hn : tail.keys.Nodup) (hk : Kept tail s tail) (hc : tail.check = .ok ()) :
    s.check = .ok () := by
  obtain ⟨_, second, _, _, -, hs, -, -, -, -⟩ := concat_ok h
  obtain ⟨entries, rfl, -, -⟩ := sequence_of_elements hs
  have hsound := (check_iff _).mp hc
  have hm : Movable entries := movable_of_concat h hn fun schemas hl =>
    items_of_check hc (Entries.mem_of_lookup hl) schemas rfl
  refine (check_concat h hf).mpr ⟨hfirst, entries, rfl, fun e he => ?_⟩
  exact sound_in_part hk he ⟨shape_faults_part hsound.shapes he,
    (usable_sequence hm hsound.shapes).mp hsound.usable e he⟩

/-- A tidy tail of a schema is a schema if it means the same by itself. -/
theorem check_tail {head tail : Schema} (h : concat head tail = .ok s) (hc : s.check = .ok ())
    (hn : tail.keys.Nodup) (ht : tail.Tidy) (hk : Kept s tail tail) : tail.check = .ok () := by
  obtain ⟨first, second, least, most, hf, hs, -, hmin, hmax, -⟩ := concat_ok h
  obtain ⟨-, entries, rfl, hall⟩ := (check_concat h hf).mp hc
  have hm : Movable entries := movable_of_concat h hn (items_of_concat h hc)
  obtain ⟨_, heq, -, hpos⟩ := sequence_of_elements hs
  cases heq
  have hshapes : shapeFaults (.obj entries) = [] :=
    shape_faults_spliced hm ht (hpos ▸ hs) hmin hmax fun e he => (hall e he).shapes
  refine (check_iff _).mpr ⟨hshapes, (usable_sequence hm hshapes).mpr fun e he => ?_⟩
  exact (sound_in_part hk he (hall e he)).usable

end CallContract.Schema
