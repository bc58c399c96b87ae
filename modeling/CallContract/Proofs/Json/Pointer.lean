import CallContract.Json.Pointer
import CallContract.Proofs.Json.Entries
import CallContract.Proofs.Json.Ordered

/-!
# Ways into a value

A way goes down from a value through items and entries to one of its parts. In a
value whose objects are in key order the pointer of a way leads to that part, and
so does its text: what is written of a step holds no slash but the one before
it, and is read back as that key or position.
-/

set_option autoImplicit false

namespace CallContract

namespace Pointer

def piece : Step → List Char
  | .key name => escape name.toList
  | .index i => Nat.toDigits 10 i

theorem chars_cons (step : Step) (p : Pointer) :
    chars (step :: p) = '/' :: (piece step ++ chars p) := by
  cases step <;> rfl

theorem unescape_escape_char (c : Char) (rest : List Char) :
    unescape (escapeChar c ++ rest) = c :: unescape rest := by
  unfold escapeChar
  by_cases ht : c = '~'
  · rw [if_pos ht, ht]
    rfl
  · rw [if_neg ht]
    by_cases hs : c = '/'
    · rw [if_pos hs, hs]
      rfl
    · rw [if_neg hs, List.cons_append, List.nil_append, unescape]
      · exact fun _ h => absurd h ht
      · exact fun _ h => absurd h ht
      · exact fun _ _ h => absurd h ht

theorem unescape_escape (key : List Char) : unescape (escape key) = key := by
  induction key with
  | nil => rfl
  | cons c key ih =>
    show unescape (escapeChar c ++ escape key) = c :: key
    rw [unescape_escape_char, ih]

theorem slash_not_mem_escape (key : List Char) : '/' ∉ escape key := by
  intro h
  obtain ⟨c, -, hc⟩ := List.mem_flatMap.mp h
  unfold escapeChar at hc
  by_cases ht : c = '~'
  · rw [if_pos ht] at hc
    revert hc
    decide
  · rw [if_neg ht] at hc
    by_cases hs : c = '/'
    · rw [if_pos hs] at hc
      revert hc
      decide
    · rw [if_neg hs] at hc
      exact hs (List.mem_singleton.mp hc).symm

theorem digit_of_mem {i : Nat} {c : Char} (h : c ∈ Nat.toDigits 10 i) : c.isDigit = true :=
  Nat.isDigit_of_mem_toDigits (by decide) (by decide) h

theorem slash_not_mem_piece (step : Step) : '/' ∉ piece step := by
  cases step with
  | key name => exact slash_not_mem_escape name.toList
  | index i =>
    intro h
    cases digit_of_mem h

theorem pieces_append {front back first : List Char} {others : List (List Char)}
    (hf : '/' ∉ front) (hb : pieces back = first :: others) :
    pieces (front ++ back) = (front ++ first) :: others := by
  induction front with
  | nil => exact hb
  | cons c front ih =>
    have hc : c ≠ '/' := fun h => hf (h ▸ List.mem_cons_self)
    rw [List.cons_append, pieces, if_neg hc, ih fun h => hf (List.mem_cons_of_mem _ h)]
    rfl

/-- The text of a pointer has a piece for each step. -/
theorem pieces_chars (step : Step) (p : Pointer) :
    pieces (piece step ++ chars p) = (step :: p).map piece := by
  induction p generalizing step with
  | nil =>
    have h : pieces (piece step ++ []) = [piece step ++ []] :=
      pieces_append (slash_not_mem_piece step) rfl
    rw [List.append_nil] at h
    show pieces (piece step ++ []) = [piece step]
    rw [List.append_nil, h]
  | cons next p ih =>
    have hb : pieces (chars (next :: p)) = [] :: (next :: p).map piece := by
      rw [chars_cons, pieces, if_pos rfl, ih]
    have h := pieces_append (slash_not_mem_piece step) hb
    rwa [List.append_nil] at h

end Pointer

namespace Json

open Pointer

theorem digits_read_back {i : Nat} (h : i < UInt64.size) :
    positionOfDigits? (Nat.toDigits 10 i) = some i := by
  have hread : (Nat.toDigits 10 i).foldl (fun n c => n * 10 + (c.toNat - '0'.toNat)) 0 = i := by
    have hcomm : (fun n (c : Char) => n * 10 + (c.toNat - '0'.toNat)) =
        fun n c => 10 * n + (c.toNat - '0'.toNat) := by
      funext n c
      rw [Nat.mul_comm]
    rw [hcomm]
    exact Nat.ofDigitChars_toDigits (by decide) (by decide)
  have hempty : (Nat.toDigits 10 i).isEmpty = false :=
    List.isEmpty_eq_false_iff.mpr Nat.toDigits_ne_nil
  have hdigits : (Nat.toDigits 10 i).all Char.isDigit = true :=
    List.all_eq_true.mpr fun c hc => digit_of_mem hc
  unfold positionOfDigits?
  rw [hread, hempty, hdigits]
  simp [Nat.not_le.mpr h]

theorem position_read_back {i : Nat} (h : i < UInt64.size) :
    position? (Nat.toDigits 10 i) = some i := by
  rw [← digits_read_back h]
  unfold position?
  split
  · rename_i digits heq
    have hplus : '+' ∈ Nat.toDigits 10 i := by
      rw [heq]
      exact List.mem_cons_self
    cases digit_of_mem hplus
  · rfl

inductive Way : Json → Pointer → Json → Prop where
  | here (x : Json) : Way x [] x
  | item {items : List Json} {i : Nat} {x y : Json} {p : Pointer} (found : items[i]? = some x)
      (rest : Way x p y) : Way (.arr items) (.index i :: p) y
  | entry {entries : Entries} {key : String} {x y : Json} {p : Pointer}
      (mem : (key, x) ∈ entries) (rest : Way x p y) : Way (.obj entries) (.key key :: p) y

/-- No list in the value has more items than a machine can count. -/
def Countable (v : Json) : Prop :=
  ∀ p items, Way v p (.arr items) → items.length ≤ UInt64.size

variable {v x : Json} {p : Pointer}

theorem Way.of_str {s : String} (h : Way (.str s) p x) : p = [] := by
  cases h
  rfl

theorem Way.at_eq (h : Way v p x) (ho : v.Ordered) : v.at? p = some x := by
  induction h with
  | here x => cases x <;> rfl
  | item hi _ ih =>
    cases ho with
    | arr hall =>
      rw [at?, hi, Option.bind_some]
      exact ih (hall _ (List.mem_of_getElem? hi))
  | entry he _ ih =>
    cases ho with
    | obj hascending hall =>
      rw [at?, Entries.lookup_of_mem hascending.nodup he, Option.bind_some]
      exact ih (hall _ he)

theorem Way.at_pieces_eq (h : Way v p x) (ho : v.Ordered) (hc : Countable v) :
    v.atPieces? (p.map piece) = some x := by
  induction h with
  | here x => cases x <;> rfl
  | item hi hway ih =>
    have hlen := hc [] _ (.here _)
    cases ho with
    | arr hall =>
      have hlt := (List.getElem?_eq_some_iff.mp hi).1
      rw [List.map_cons, piece, atPieces?, position_read_back (Nat.lt_of_lt_of_le hlt hlen),
        Option.bind_some, hi, Option.bind_some]
      exact ih (hall _ (List.mem_of_getElem? hi)) fun p items h => hc _ items (.item hi h)
  | entry he hway ih =>
    cases ho with
    | obj hascending hall =>
      rw [List.map_cons, piece, atPieces?, unescape_escape, String.ofList_toList,
        Entries.lookup_of_mem hascending.nodup he, Option.bind_some]
      exact ih (hall _ he) fun p items h => hc _ items (.entry he h)

/-- The text of a way's pointer leads to the part where the way ends. -/
theorem Way.at_text_eq (h : Way v p x) (ho : v.Ordered) (hc : Countable v) :
    v.atText? p.text = some x := by
  have hpieces := h.at_pieces_eq ho hc
  rw [atText?, Pointer.text, String.toList_ofList]
  cases p with
  | nil => exact hpieces
  | cons step p =>
    rw [chars_cons]
    show v.atPieces? (pieces (piece step ++ chars p)) = some x
    rw [pieces_chars]
    exact hpieces

example : (Json.obj [("m~/n", .arr [.null, .str "x"])]).atText? "/m~0~1n/1" = some (.str "x") := by
  decide +kernel

end Json

end CallContract
