import CallContract.Schema.Check
import CallContract.Schema.Evaluation

/-!
# Explainers

An explainer is a schema known to be without fault. It decides whether it
accepts a value, and explains a refusal by the list of all violations.
-/

set_option autoImplicit false

namespace CallContract

structure Explainer where
  schema : Schema
  faultless : schema.fault? = none

structure Explanation where
  value : Json
  violations : List Violation
  deriving DecidableEq, Repr

namespace Explanation

def text (e : Explanation) : String :=
  "\n".intercalate (e.violations.map Violation.text)

end Explanation

namespace Explainer

def build (s : Schema) : Except SchemaError Explainer :=
  match h : s.fault? with
  | none => .ok ⟨s, h⟩
  | some fault => .error (.malformed s fault)

theorem schema_of_build {s : Schema} {e : Explainer} (h : build s = .ok e) : e.schema = s := by
  unfold build at h
  split at h
  · cases h
    rfl
  · cases h

def isValid (e : Explainer) (v : Json) : Bool := e.schema.accepts v

def explain (e : Explainer) (v : Json) : Option Explanation :=
  if e.isValid v then none else some ⟨v, e.schema.violations v⟩

end Explainer

end CallContract
