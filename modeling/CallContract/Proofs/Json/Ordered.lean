import CallContract.Json.Parser
import CallContract.Proofs.Outcome

/-!
# Objects in key order

Every object that is read from text has its keys in strictly ascending order, at
every depth. In particular no key is there twice.
-/

set_option autoImplicit false

namespace CallContract.Json

def Ascending (entries : Entries) : Prop := entries.Pairwise fun a b => a.1 < b.1

inductive Ordered : Json → Prop
  | null : Ordered .null
  | bool (b : Bool) : Ordered (.bool b)
  | num (n : Number) : Ordered (.num n)
  | str (s : String) : Ordered (.str s)
  | arr {items : List Json} (all : ∀ x ∈ items, Ordered x) : Ordered (.arr items)
  | obj {entries : Entries} (ascending : Ascending entries) (all : ∀ e ∈ entries, Ordered e.2) :
      Ordered (.obj entries)

theorem Ascending.nodup {entries : Entries} (h : Ascending entries) :
    (entries.map (·.1)).Nodup := by
  rw [List.Nodup, List.pairwise_map]
  exact h.imp String.ne_of_lt

theorem mem_insert_entry {key : String} {value : Json} {entries : Entries} {e : String × Json}
    (h : e ∈ insertEntry key value entries) : e = (key, value) ∨ e ∈ entries := by
  induction entries with
  | nil => exact .inl (List.mem_singleton.mp h)
  | cons entry rest ih =>
    obtain ⟨k, v⟩ := entry
    unfold insertEntry at h
    split at h
    · exact List.mem_cons.mp h
    · split at h
      · exact (List.mem_cons.mp h).imp_right (List.mem_cons_of_mem _)
      · rcases List.mem_cons.mp h with rfl | h
        · exact .inr List.mem_cons_self
        · exact (ih h).imp_right (List.mem_cons_of_mem _)

theorem ascending_insert_entry (key : String) (value : Json) {entries : Entries}
    (h : Ascending entries) : Ascending (insertEntry key value entries) := by
  induction entries with
  | nil => exact List.pairwise_singleton _ _
  | cons entry rest ih =>
    obtain ⟨k, v⟩ := entry
    obtain ⟨hk, hrest⟩ := List.pairwise_cons.mp h
    unfold insertEntry
    by_cases hlt : key < k
    · rw [if_pos hlt]
      refine List.pairwise_cons.mpr ⟨fun e he => ?_, h⟩
      rcases List.mem_cons.mp he with rfl | he
      · exact hlt
      · exact String.lt_trans hlt (hk e he)
    · by_cases heq : key = k
      · rw [if_neg hlt, if_pos heq]
        exact List.pairwise_cons.mpr ⟨fun e he => heq ▸ hk e he, hrest⟩
      · rw [if_neg hlt, if_neg heq]
        refine List.pairwise_cons.mpr ⟨fun e he => ?_, ih hrest⟩
        rcases mem_insert_entry he with rfl | he
        · apply String.not_le.mp
          intro hle
          exact heq (String.le_antisymm hle (String.not_lt.mp hlt))
        · exact hk e he

def ReadsOrdered (readValue : List Char → Except ParseError (Json × List Char)) : Prop :=
  ∀ cs x rest, readValue cs = .ok (x, rest) → Ordered x

theorem read_items_ordered {readValue : List Char → Except ParseError (Json × List Char)}
    (hr : ReadsOrdered readValue) {fuel : Nat} {first : Bool} {done items : List Json}
    {cs rest : List Char} (hd : ∀ x ∈ done, Ordered x)
    (h : readItems readValue fuel first done cs = .ok (items, rest)) :
    ∀ x ∈ items, Ordered x := by
  induction fuel generalizing first done cs with
  | zero => cases h
  | succ fuel ih =>
    unfold readItems at h
    split at h
    · cases h
    · cases h
      intro x hx
      exact hd x (List.mem_reverse.mp hx)
    · have hnext {start : List Char} (h : (readValue start >>= fun r =>
          readItems readValue fuel false (r.1 :: done) r.2) = .ok (items, rest)) :
          ∀ x ∈ items, Ordered x := by
        obtain ⟨⟨x, more⟩, hx, h⟩ := bind_ok.mp h
        exact ih (List.forall_mem_cons.mpr ⟨hr _ _ _ hx, hd⟩) h
      split at h
      · exact hnext h
      · split at h
        · split at h
          · cases h
          · cases h
          · exact hnext h
        · cases h

theorem read_entry_ordered {readValue : List Char → Except ParseError (Json × List Char)}
    {next : Entries → List Char → Except ParseError (Entries × List Char)}
    (hr : ReadsOrdered readValue) {done entries : Entries} {start rest : List Char}
    (ha : Ascending done) (hd : ∀ e ∈ done, Ordered e.2)
    (hn : ∀ more cs, Ascending more → (∀ e ∈ more, Ordered e.2) →
      next more cs = .ok (entries, rest) → Ascending entries ∧ ∀ e ∈ entries, Ordered e.2)
    (h : (readString (start.length + 1) [] start >>= fun r =>
      match skipBlanks r.2 with
      | ':' :: cs => readValue cs >>= fun v => next (insertEntry r.1 v.1 done) v.2
      | [] => .error .endInObject
      | _ => .error .expectedColon) = .ok (entries, rest)) :
    Ascending entries ∧ ∀ e ∈ entries, Ordered e.2 := by
  obtain ⟨⟨key, cs⟩, -, h⟩ := bind_ok.mp h
  dsimp only at h
  split at h
  · obtain ⟨⟨x, cs⟩, hx, h⟩ := bind_ok.mp h
    refine hn _ cs (ascending_insert_entry key x ha) (fun e he => ?_) h
    rcases mem_insert_entry he with rfl | he
    · exact hr _ _ _ hx
    · exact hd e he
  · cases h
  · cases h

theorem read_entries_ordered {readValue : List Char → Except ParseError (Json × List Char)}
    (hr : ReadsOrdered readValue) {fuel : Nat} {first : Bool} {done entries : Entries}
    {cs rest : List Char} (ha : Ascending done) (hd : ∀ e ∈ done, Ordered e.2)
    (h : readEntries readValue fuel first done cs = .ok (entries, rest)) :
    Ascending entries ∧ ∀ e ∈ entries, Ordered e.2 := by
  induction fuel generalizing first done cs with
  | zero => cases h
  | succ fuel ih =>
    have hn more cs (ha : Ascending more) (hd : ∀ e ∈ more, Ordered e.2)
        (h : readEntries readValue fuel false more cs = .ok (entries, rest)) :
        Ascending entries ∧ ∀ e ∈ entries, Ordered e.2 := ih ha hd h
    unfold readEntries at h
    split at h
    · cases h
    · cases h
      exact ⟨ha, hd⟩
    · split at h
      · split at h
        · exact read_entry_ordered hr ha hd hn h
        · cases h
      · split at h
        · split at h
          · cases h
          · exact read_entry_ordered hr ha hd hn h
          · cases h
          · cases h
        · cases h

theorem read_word_ordered {value x : Json} {word cs rest : List Char} (hv : Ordered value)
    (h : readWord value word cs = .ok (x, rest)) : Ordered x := by
  induction word generalizing cs with
  | nil =>
    cases h
    exact hv
  | cons w word ih =>
    cases cs with
    | nil => cases h
    | cons c cs =>
      unfold readWord at h
      split at h
      · exact ih h
      · cases h

theorem read_value_ordered (depth : Nat) : ReadsOrdered (readValue depth) := by
  induction depth using Nat.strongRecOn with
  | ind depth ih =>
    intro cs x rest h
    unfold readValue at h
    split at h
    · cases h
    · exact read_word_ordered .null h
    · exact read_word_ordered (.bool true) h
    · exact read_word_ordered (.bool false) h
    · obtain ⟨⟨s, more⟩, -, h⟩ := bind_ok.mp h
      cases h
      exact .str s
    · split at h
      · cases h
      · rename_i depth
        obtain ⟨⟨items, more⟩, hi, h⟩ := bind_ok.mp h
        cases h
        exact .arr (read_items_ordered (ih depth (Nat.lt_succ_self depth)) (by simp) hi)
    · split at h
      · cases h
      · rename_i depth
        obtain ⟨⟨entries, more⟩, he, h⟩ := bind_ok.mp h
        cases h
        obtain ⟨ha, hall⟩ := read_entries_ordered (ih depth (Nat.lt_succ_self depth))
          List.Pairwise.nil (by simp) he
        exact .obj ha hall
    · obtain ⟨⟨n, more⟩, -, h⟩ := bind_ok.mp h
      cases h
      exact .num n
    · split at h
      · obtain ⟨⟨n, more⟩, -, h⟩ := bind_ok.mp h
        cases h
        exact .num n
      · cases h

/-- Every value that is read from text has its objects in key order. -/
theorem parse_ordered {text : String} {x : Json} (h : parse text = .ok x) : Ordered x := by
  obtain ⟨⟨y, rest⟩, hy, h⟩ := bind_ok.mp h
  dsimp only at h
  split at h
  · cases h
    exact read_value_ordered 127 _ _ _ hy
  · cases h

end CallContract.Json
