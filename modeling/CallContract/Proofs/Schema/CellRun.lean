import CallContract.Proofs.Schema.Cell

/-!
# Runs of a cell

What a fresh cell holds after some operations is decided by two things: whether
its schema can be built, and which operation was the first to need the
explainer. The step lemma says so of one operation, the run lemma of any list of
them. So a cell answers as if every explainer were built anew, and it never
gives two instances.
-/

set_option autoImplicit false

namespace CallContract.ExplainerCell

def Operation.needs : Operation → Bool
  | .get => true
  | .explain _ => true
  | .isBuilt => false
  | .schema => false

def Operation.mark (op : Operation) (serial : Nat) (first : Option Nat) : Option Nat :=
  if op.needs then first.or (some serial) else first

def firstUse : Nat → List Operation → Option Nat → Option Nat
  | _, [], first => first
  | serial, op :: rest, first => firstUse (serial + 1) rest (op.mark serial first)

def held (s : Schema) (first : Option Nat) : Option BuiltExplainer :=
  match first, Explainer.build s with
  | some serial, .ok e => some ⟨serial, e⟩
  | _, _ => none

def Operation.answer (s : Schema) (first : Option Nat) : Operation → Answer
  | .isBuilt => .built (held s first).isSome
  | .schema => .schema s
  | .get => match Explainer.build s with
    | .ok e => .got ⟨first.getD 0, e⟩
    | .error e => .failed e
  | .explain v => match Explainer.build s with
    | .ok e => .explained (e.explain v)
    | .error e => .failed e

structure Left (s : Schema) (first : Option Nat) (c : ExplainerCell) : Prop where
  schema : c.schema = s
  built : c.built = held s first

variable {s : Schema} {first : Option Nat} {c : ExplainerCell}

theorem held_ok {e : Explainer} (h : Explainer.build s = .ok e) (first : Option Nat) :
    held s first = first.map (⟨·, e⟩) := by
  unfold held
  rw [h]
  cases first <;> rfl

theorem held_error {e : SchemaError} (h : Explainer.build s = .error e) (first : Option Nat) :
    held s first = none := by
  unfold held
  rw [h]
  cases first <;> rfl

theorem left_new (s : Schema) : Left s none (new s) := ⟨rfl, rfl⟩

theorem get_full {b : BuiltExplainer} (h : c.built = some b) (serial : Nat) :
    c.get serial = (.ok b, c) := by
  unfold get
  split
  · rename_i b' hb
    cases h.symm.trans hb
    rfl
  · rename_i hb
    cases h.symm.trans hb

theorem get_fills {e : Explainer} (h : c.built = none) (he : Explainer.build c.schema = .ok e)
    (serial : Nat) : c.get serial =
      (.ok ⟨serial, e⟩, c.fill ⟨serial, e⟩ (Explainer.schema_of_build he)) := by
  unfold get
  split
  · rename_i b hb
    cases h.symm.trans hb
  · split
    · rename_i e' he'
      cases he.symm.trans he'
      rfl
    · rename_i e' he'
      cases he.symm.trans he'

theorem get_fails {e : SchemaError} (h : c.built = none)
    (he : Explainer.build c.schema = .error e) (serial : Nat) :
    c.get serial = (.error e, c) := by
  unfold get
  split
  · rename_i b hb
    cases h.symm.trans hb
  · split
    · rename_i e' he'
      cases he.symm.trans he'
    · rename_i e' he'
      cases he.symm.trans he'
      rfl

theorem get_left (h : Left s first c) (serial : Nat) :
    ∃ cell, c.get serial =
        ((Explainer.build s).map (fun e => ⟨(first.or (some serial)).getD 0, e⟩), cell) ∧
      Left s (first.or (some serial)) cell := by
  obtain ⟨rfl, hb⟩ := h
  cases he : Explainer.build c.schema with
  | error e =>
    rw [held_error he] at hb
    exact ⟨c, get_fails hb he serial, rfl, hb.trans (held_error he _).symm⟩
  | ok e =>
    rw [held_ok he] at hb
    cases first with
    | none => exact ⟨_, get_fills hb he serial, rfl, (held_ok he (some serial)).symm⟩
    | some n => exact ⟨c, get_full hb serial, rfl, hb.trans (held_ok he (some n)).symm⟩

/-- One operation answers by the schema and the first use, and keeps track of the first use. -/
theorem step_left (h : Left s first c) (serial : Nat) (op : Operation) :
    ∃ cell, c.step serial op = (op.answer s (op.mark serial first), cell) ∧
      Left s (op.mark serial first) cell := by
  cases op with
  | isBuilt =>
    refine ⟨c, ?_, h⟩
    show (Answer.built c.built.isSome, c) = (Answer.built (held s first).isSome, c)
    rw [h.built]
  | schema =>
    refine ⟨c, ?_, h⟩
    show (Answer.schema c.schema, c) = (Answer.schema s, c)
    rw [h.schema]
  | get =>
    obtain ⟨cell, hget, hleft⟩ := get_left h serial
    refine ⟨cell, ?_, hleft⟩
    rw [step, hget, Operation.answer]
    cases Explainer.build s <;> rfl
  | explain v =>
    obtain ⟨cell, hget, hleft⟩ := get_left h serial
    refine ⟨cell, ?_, hleft⟩
    rw [step, explain, hget, Operation.answer]
    cases Explainer.build s <;> rfl

/-- A run answers each operation by the schema and the first use up to it, and leaves the cell
so. -/
theorem run_left (h : Left s first c) (serial : Nat) (ops : List Operation) {i : Nat}
    {op : Operation} (hop : ops[i]? = some op) :
    ∃ cell, (c.run serial ops)[i]? =
        some (op.answer s (firstUse serial (ops.take (i + 1)) first), cell) ∧
      Left s (firstUse serial (ops.take (i + 1)) first) cell := by
  induction ops generalizing c serial first i with
  | nil => cases hop
  | cons o rest ih =>
    obtain ⟨cell, hstep, hleft⟩ := step_left h serial o
    rw [run, hstep]
    cases i with
    | zero =>
      cases hop
      exact ⟨cell, rfl, hleft⟩
    | succ i => exact ih hleft (serial + 1) hop

theorem length_run (c : ExplainerCell) (serial : Nat) (ops : List Operation) :
    (c.run serial ops).length = ops.length := by
  induction ops generalizing c serial with
  | nil => rfl
  | cons op rest ih => rw [run, List.length_cons, List.length_cons, ih]

theorem first_use_exists (serial : Nat) (ops : List Operation) (first : Option Nat) :
    (firstUse serial ops first).isSome = (first.isSome || ops.any Operation.needs) := by
  induction ops generalizing serial first with
  | nil => simp [firstUse]
  | cons op rest ih =>
    rw [firstUse, ih, List.any_cons, Operation.mark]
    by_cases h : op.needs = true
    · simp [h]
    · simp [h]

theorem first_use_append (serial : Nat) (ops more : List Operation) (first : Option Nat) :
    firstUse serial (ops ++ more) first =
      firstUse (serial + ops.length) more (firstUse serial ops first) := by
  induction ops generalizing serial first with
  | nil => rfl
  | cons op rest ih =>
    rw [List.cons_append, firstUse, ih, firstUse, List.length_cons]
    congr 1
    omega

theorem first_use_some (serial : Nat) (ops : List Operation) (n : Nat) :
    firstUse serial ops (some n) = some n := by
  induction ops generalizing serial with
  | nil => rfl
  | cons op rest ih =>
    have hmark : op.mark serial (some n) = some n := by
      unfold Operation.mark
      split <;> rfl
    rw [firstUse, hmark, ih]

theorem built_left {serial : Nat} {ops : List Operation}
    (h : Left s (firstUse serial ops none) c) : c.isBuilt = true ↔
      (∃ e, Explainer.build s = .ok e) ∧ ∃ op ∈ ops, op.needs = true := by
  have huse : (firstUse serial ops none).isSome = ops.any Operation.needs := by
    rw [first_use_exists, Option.isSome_none, Bool.false_or]
  rw [isBuilt, h.built, ← List.any_eq_true, ← huse]
  cases he : Explainer.build s with
  | error e => simp [held_error he]
  | ok e => simp [held_ok he]

theorem answer_failed {op : Operation} {e : SchemaError} (h : op.answer s first = .failed e) :
    held s first = none := by
  cases he : Explainer.build s with
  | error e' => exact held_error he first
  | ok e' => cases op <;> simp [Operation.answer, he] at h

/-- A log of a cell that shows nothing of the cell but when its explainer is built. -/
structure Transparent (s : Schema) (ops : List Operation) (log : List (Answer × ExplainerCell)) :
    Prop where
  length : log.length = ops.length
  explained : ∀ (i : Nat) (v : Json) (answer : Answer) (cell : ExplainerCell),
    ops[i]? = some (.explain v) → log[i]? = some (answer, cell) →
      answer = match Explainer.build s with
        | .ok e => .explained (e.explain v)
        | .error e => .failed e
  got : ∃ serial, ∀ (i : Nat) (answer : Answer) (cell : ExplainerCell),
    ops[i]? = some .get → log[i]? = some (answer, cell) →
      answer = match Explainer.build s with
        | .ok e => .got ⟨serial, e⟩
        | .error e => .failed e
  shown : ∀ (i : Nat) (answer : Answer) (cell : ExplainerCell), log[i]? = some (answer, cell) →
    cell.schema = s ∧ (ops[i]? = some .schema → answer = .schema s) ∧
      (ops[i]? = some .isBuilt → answer = .built cell.isBuilt)
  built : ∀ (i : Nat) (answer : Answer) (cell : ExplainerCell), log[i]? = some (answer, cell) →
    (cell.isBuilt = true ↔
      (∃ e, Explainer.build s = .ok e) ∧ ∃ op ∈ ops.take (i + 1), op.needs = true)
  stays : ∀ (i j : Nat) (before after : Answer) (cell later : ExplainerCell), i ≤ j →
    log[i]? = some (before, cell) → log[j]? = some (after, later) →
      cell.isBuilt = true → later.isBuilt = true
  failed : ∀ (i : Nat) (e : SchemaError) (cell : ExplainerCell),
    log[i]? = some (.failed e, cell) → cell.isBuilt = false

/-- What a run of a fresh cell logs: the answer is by the schema and the first use up to the
operation, and the cell is left so. -/
theorem run_logged {serial : Nat} {ops : List Operation} {i : Nat} {answer : Answer}
    {cell : ExplainerCell} (h : (run (.new s) serial ops)[i]? = some (answer, cell)) :
    ∃ op, ops[i]? = some op ∧ answer = op.answer s (firstUse serial (ops.take (i + 1)) none) ∧
      Left s (firstUse serial (ops.take (i + 1)) none) cell := by
  have hi : i < ops.length := by
    rw [← length_run (.new s) serial ops]
    exact (List.getElem?_eq_some_iff.mp h).1
  have hop : ops[i]? = some ops[i] := List.getElem?_eq_getElem hi
  obtain ⟨left, hlog, hleft⟩ := run_left (left_new s) serial ops hop
  cases h.symm.trans hlog
  exact ⟨_, hop, rfl, hleft⟩

theorem first_use_take {serial : Nat} {ops : List Operation} {i : Nat} {op : Operation}
    (hop : ops[i]? = some op) (h : op.needs = true) :
    firstUse serial (ops.take (i + 1)) none = firstUse serial ops none := by
  have hused : (firstUse serial (ops.take (i + 1)) none).isSome = true := by
    rw [first_use_exists, Bool.or_eq_true, List.any_eq_true]
    right
    refine ⟨op, ?_, h⟩
    apply List.mem_of_getElem? (i := i)
    rw [List.getElem?_take_of_lt (Nat.lt_succ_self i), hop]
  obtain ⟨n, hn⟩ := Option.isSome_iff_exists.mp hused
  have hwhole : firstUse serial ops none = some n := by
    rw [← List.take_append_drop (i + 1) ops, first_use_append, hn, first_use_some]
  rw [hn, hwhole]

/-- A run of a fresh cell answers every question as a fresh explainer would, gives one instance, and
has the cell built exactly from the first use on, if its schema can be built. -/
theorem run_transparent (s : Schema) (serial : Nat) (ops : List Operation) :
    Transparent s ops (run (.new s) serial ops) := by
  have hbuilt (i : Nat) (answer : Answer) (cell : ExplainerCell)
      (h : (run (.new s) serial ops)[i]? = some (answer, cell)) : cell.isBuilt = true ↔
        (∃ e, Explainer.build s = .ok e) ∧ ∃ op ∈ ops.take (i + 1), op.needs = true := by
    obtain ⟨-, -, -, hleft⟩ := run_logged h
    exact built_left hleft
  refine ⟨length_run _ serial ops, ?_, ?_, ?_, hbuilt, ?_, ?_⟩
  · intro i v answer cell hop hlog
    obtain ⟨op, hop', rfl, -⟩ := run_logged hlog
    cases hop.symm.trans hop'
    rfl
  · refine ⟨(firstUse serial ops none).getD 0, fun i answer cell hop hlog => ?_⟩
    obtain ⟨op, hop', rfl, -⟩ := run_logged hlog
    cases hop.symm.trans hop'
    -- the instance is the one that the first use of the whole run has built
    rw [first_use_take hop rfl]
    rfl
  · intro i answer cell hlog
    obtain ⟨op, hop, rfl, hleft⟩ := run_logged hlog
    refine ⟨hleft.schema, fun h => ?_, fun h => ?_⟩
    · cases h.symm.trans hop
      rfl
    · cases h.symm.trans hop
      rw [isBuilt, hleft.built]
      rfl
  · intro i j before after cell later hij hi hj hcell
    obtain ⟨hs, op, hop, hneeds⟩ := (hbuilt i before cell hi).mp hcell
    apply (hbuilt j after later hj).mpr
    have hle : i + 1 ≤ j + 1 := by omega
    exact ⟨hs, op, List.take_subset_take_left ops hle hop, hneeds⟩
  · intro i e cell hlog
    obtain ⟨op, -, hanswer, hleft⟩ := run_logged hlog
    rw [isBuilt, hleft.built, answer_failed hanswer.symm, Option.isSome_none]

end CallContract.ExplainerCell
