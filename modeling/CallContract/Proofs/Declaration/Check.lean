import CallContract.Declaration.Compile
import CallContract.Proofs.Argument.Error
import CallContract.Proofs.Declaration.Slot
import CallContract.Proofs.Schema.Explanation

/-!
# Replaying a call

What is asked of a claimed call: an arity for its number of arguments, whose
input schema accepts them, and an output schema that accepts the result. The
answer is the first of these that is missing. There is an answer unless the
function is unknown or does not compile, or the arguments are no list; neither
its tags nor the toggle have a part in it.

The program stops without an answer if a bound on the number of arguments is
beyond the range of counts. And an answer takes evaluations that end: what is
said of answers is said of calls whose schemas never come back to themselves
with the same value.
-/

set_option autoImplicit false

namespace CallContract

namespace DeclaredArity

def input? (types : Registry) (a : DeclaredArity) : Option Schema :=
  match a.toSlots with
  | .ok slots => (ArgumentForm.build types slots).toOption.map (·.input)
  | .error _ => none

theorem input_of_build {types : Registry} {a : DeclaredArity} {slots : List Slot}
    {form : ArgumentForm} (hs : a.toSlots = .ok slots)
    (hf : ArgumentForm.build types slots = .ok form) : a.input? types = some form.input := by
  rw [input?, hs]
  simp only [hf]
  rfl

end DeclaredArity

namespace DeclaredFunction

def outputSchema (f : DeclaredFunction) : Schema := f.output.getD Schema.any

def Selects (f : DeclaredFunction) (types : Registry) (count : Nat) (s : Schema) : Prop :=
  ∃ a ∈ f.arities, a.takes count = true ∧ a.input? types = some s

/-- What there is to say about a call with these arguments and this result, by the verdicts of the
schemas. -/
inductive Answer (f : DeclaredFunction) (types : Registry) (Verdict : Schema → Json → Bool → Prop)
    (args : List Json) (v : Json) : Option CallError → Prop where
  | conforming {s : Schema} (hs : f.Selects types args.length s)
      (hargs : Verdict s (.arr args) true) (hv : Verdict f.outputSchema v true) :
      Answer f types Verdict args v none
  | mismatch (h : ∀ a ∈ f.arities, a.takes args.length = false) :
      Answer f types Verdict args v (some (.arityMismatch f.name args.length))
  | input {s : Schema} (hs : f.Selects types args.length s)
      (hargs : Verdict s (.arr args) false) : Answer f types Verdict args v
        (some (.invalid .input s ⟨.arr args, s.violations (.arr args)⟩))
  | output {s : Schema} (hs : f.Selects types args.length s)
      (hargs : Verdict s (.arr args) true) (hv : Verdict f.outputSchema v false) :
      Answer f types Verdict args v
        (some (.invalid .output f.outputSchema ⟨v, f.outputSchema.violations v⟩))

def WithinBudget (s : Schema) (v : Json) (verdict : Bool) : Prop := s.accepts v = verdict

/-- The evaluations that a call asks for come to an end. -/
structure Ends (f : DeclaredFunction) (types : Registry) (args : List Json) : Prop where
  input : ∀ s, f.Selects types args.length s → s.Guarded s
  output : ∀ s, f.Selects types args.length s → s.accepts (.arr args) = true →
    f.outputSchema.Guarded f.outputSchema

def InRange (f : DeclaredFunction) (types : Registry) : Prop :=
  ∀ a ∈ f.arities, ∀ slots, a.toSlots = .ok slots → Slot.InRange types 0 slots

variable {f : DeclaredFunction} {types : Registry} {args : List Json} {v : Json}
  {made : FunctionDef Unit} {c : CompiledFunction Unit}

theorem Answer.imp {Verdict Other : Schema → Json → Bool → Prop} {answer : Option CallError}
    (h : ∀ s x b, Verdict s x b → Other s x b) (ha : f.Answer types Verdict args v answer) :
    f.Answer types Other args v answer := by
  cases ha with
  | conforming hs hargs hv => exact .conforming hs (h _ _ _ hargs) (h _ _ _ hv)
  | mismatch hnone => exact .mismatch hnone
  | input hs hargs => exact .input hs (h _ _ _ hargs)
  | output hs hargs hv => exact .output hs (h _ _ _ hargs) (h _ _ _ hv)

/-- If the evaluations end, the answer within the budget is that of any evaluation. -/
theorem Answer.decided {answer : Option CallError} (hends : f.Ends types args)
    (hinput : ∀ s, f.Selects types args.length s → s.check = .ok ())
    (houtput : f.outputSchema.check = .ok ()) (ha : f.Answer types WithinBudget args v answer) :
    f.Answer types Schema.Decides args v answer := by
  have hdecides {s : Schema} (hs : f.Selects types args.length s) {b : Bool}
      (hargs : s.accepts (.arr args) = b) : s.Decides (.arr args) b :=
    hargs ▸ Schema.decides_of_guarded (hinput s hs) (hends.input s hs) (.arr args)
  have hresult {s : Schema} (hs : f.Selects types args.length s)
      (hargs : s.accepts (.arr args) = true) {b : Bool} (hv : f.outputSchema.accepts v = b) :
      f.outputSchema.Decides v b :=
    hv ▸ Schema.decides_of_guarded houtput (hends.output s hs hargs) v
  cases ha with
  | conforming hs hargs hv => exact .conforming hs (hdecides hs hargs) (hresult hs hargs hv)
  | mismatch hnone => exact .mismatch hnone
  | input hs hargs => exact .input hs (hdecides hs hargs)
  | output hs hargs hv => exact .output hs (hdecides hs hargs) (hresult hs hargs hv)

theorem compile_ok {f : DeclaredFunction} {v : Json} {tags : Tags} {config : Config}
    {types : Registry} {c : CompiledFunction Unit} :
    f.compile v tags config types = .ok c ↔ ∃ made : FunctionDef Unit, f.toDef v = .ok made ∧
      { made with tags }.compile config types = .ok c := by
  constructor
  · intro h
    obtain ⟨made, hm, h⟩ := bind_ok.mp h
    exact ⟨made, map_error_ok.mp hm, map_error_ok.mp h⟩
  · rintro ⟨made, hm, hc⟩
    exact bind_ok.mpr ⟨made, map_error_ok.mpr hm, map_error_ok.mpr hc⟩

end DeclaredFunction

namespace Declarations

variable {d : Declarations} {enabled : Bool} {name : String} {arguments v : Json}

theorem untagged :
    ¬((⟨false, false⟩ : Tags).never = true ∧ (⟨false, false⟩ : Tags).always = true) :=
  fun h => nomatch h.1

end Declarations

end CallContract
