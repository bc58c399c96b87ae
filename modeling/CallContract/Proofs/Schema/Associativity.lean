import CallContract.Proofs.Schema.Splice

/-!
# Splicing behind several tuples

Tuples spliced one behind the other are the tuple of the elements of them all.
So a document that is spliced behind several tuples may be spliced behind them
one after the other, the last tuple first. What is read of the document on the
way, its elements, bounds and items, is what is read of it at once, and if it is
refused, it is refused for the same reason.
-/

set_option autoImplicit false

namespace CallContract.Schema

variable {h m : List (Schema × Entries)} {t : Schema}

theorem tuple_length_tuple (parts : List (Schema × Entries)) :
    (tuple parts).tupleLength? = some parts.length := by
  rw [tupleLength?, elements_tuple, Option.map_some, List.length_map]

theorem concat_tuples (h : List (Schema × Entries)) (hm : h.length + m.length < 2 ^ 64) :
    concat (tuple h) (tuple m) = .ok (tuple (h ++ m)) := by
  rw [tuple.eq_def m, concat_bounded_array hm (by simp), tuple, List.map_append, List.length_append]
  rfl

/-- What is spliced behind two tuples at once may be spliced behind the second and then behind the
first. -/
theorem concat_append (hfit : CountsFit (h.length + m.length) t) :
    concat (tuple (h ++ m)) t = concat (tuple m) t >>= concat (tuple h) := by
  rw [← List.length_append] at hfit
  have hlength : (h ++ m).length = h.length + m.length := List.length_append
  cases hr : concat (tuple m) t with
  | error e => exact (concat_tuple_error hfit (hfit.mono (by omega))).mpr hr
  | ok r =>
    obtain ⟨first, second, least, most, hf, hs, hi, hmin, hmax, rfl⟩ := concat_ok hr
    obtain rfl := Option.some.inj ((elements_tuple m).symm.trans hf)
    -- the bounds that were moved behind the second tuple are moved on behind the first
    have hlow : h.length + (m.length + least.getD 0) < 2 ^ 64 := by
      cases least with
      | none =>
        have := hfit.elements
        rw [Option.getD_none]
        omega
      | some count =>
        have := hfit.least ⟨second, hs⟩ hi count hmin
        rw [Option.getD_some]
        omega
    have hhigh : ∀ n ∈ most.map (m.length + ·), h.length + n < 2 ^ 64 := by
      intro n hn
      obtain ⟨count, rfl, rfl⟩ := Option.map_eq_some_iff.mp hn
      have := hfit.most ⟨second, hs⟩ hi ⟨least, hmin⟩ count hmax
      omega
    have hlength : (h ++ m).length = ((h ++ m).map fun p => element p.1 p.2).length :=
      (List.length_map _).symm
    rw [hlength] at hfit
    rw [concat_eq (elements_tuple (h ++ m)) hs hi hmin hmax hfit, List.length_map, List.length_map]
    change _ = concat (tuple h) _
    rw [concat_bounded_array hlow hhigh, List.map_append, List.append_assoc, List.length_append,
      Nat.add_assoc, Option.map_map]
    simp only [Function.comp_def, Nat.add_assoc]

/-- Two tuples are spliced to a tuple. Whether any document is spliced behind that tuple, or behind
the second one and the result behind the first, makes no difference, neither to the schema nor to
the error, which is that of the document behind nothing. The result has as many elements as the
three together. -/
theorem concat_assoc (h m : List (Schema × Entries)) (t : Schema)
    (hfit : CountsFit (h.length + m.length) t) :
    let left := concat (tuple h) (tuple m) >>= fun first => concat first t
    let right := concat (tuple m) t >>= fun last => concat (tuple h) last
    concat (tuple h) (tuple m) = .ok (tuple (h ++ m)) ∧ left = right ∧
    (∀ e, left = .error e ↔ concat (tuple []) t = .error e) ∧
    ∀ r, left = .ok r →
      ∃ a b c, (tuple h).tupleLength? = some a ∧ (tuple m).tupleLength? = some b ∧
        t.tupleLength? = some c ∧ r.tupleLength? = some (a + b + c) := by
  intro left right
  have htuples : concat (tuple h) (tuple m) = .ok (tuple (h ++ m)) := concat_tuples h hfit.elements
  have hleft : left = concat (tuple (h ++ m)) t := by
    show (concat (tuple h) (tuple m) >>= fun first => concat first t) = _
    rw [htuples]
    rfl
  rw [hleft]
  have hall : CountsFit (h ++ m).length t := List.length_append ▸ hfit
  refine ⟨htuples, concat_append hfit, fun e => concat_tuple_error hall (hfit.mono (Nat.zero_le _)),
    fun r hr => ?_⟩
  obtain ⟨first, second, least, most, hf, hs, -, -, -, rfl⟩ := concat_ok hr
  obtain rfl := Option.some.inj ((elements_tuple (h ++ m)).symm.trans hf)
  refine ⟨_, _, second.length, tuple_length_tuple h, tuple_length_tuple m, ?_, ?_⟩
  · rw [tupleLength?, hs, Option.map_some]
  · rw [tupleLength?, elements_bounded_array, Option.map_some, List.length_append, List.length_map,
      List.length_append]

theorem concat_assoc_labels :
    let first := tuple [(.obj [("type", .str "integer")], [])]
    let second := tuple [(any, [("title", .str "x")])]
    let third := .obj [("maxItems", .natural 3), ("minItems", .natural 1),
      ("prefixItems", .arr [.obj [("type", .str "string")]]), ("type", .str "array")]
    ∃ r, (concat first second >>= fun s => concat s third) = .ok r ∧
      (concat second third >>= fun s => concat first s) = .ok r ∧ r.tupleLength? = some 3 := by
  intro first second third
  have hfit : CountsFit 2 third := by
    refine ⟨by decide, fun _ _ count hcount => ?_, fun _ _ _ count hcount => ?_⟩
    · cases hcount
      decide
    · cases hcount
      decide
  obtain ⟨-, hassoc, -, hlength⟩ := concat_assoc [(.obj [("type", .str "integer")], [])]
    [(any, [("title", .str "x")])] third hfit
  refine ⟨_, rfl, hassoc.symm.trans rfl, ?_⟩
  obtain ⟨a, b, c, ha, hb, hc, hr⟩ := hlength _ rfl
  cases ha
  cases hb
  cases hc
  exact hr

end CallContract.Schema
