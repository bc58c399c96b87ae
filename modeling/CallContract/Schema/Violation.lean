import CallContract.Schema.Failure
import CallContract.Json.Pointer

/-!
# Violations

A violation says where in the value and where in the schema a keyword failed.
Inside a keyword both places are relative; `Violation.within` moves them out.
-/

set_option autoImplicit false

namespace CallContract

structure Violation where
  instanceAt : Pointer
  schemaAt : Pointer
  /-- What stood at that place; for a property name, the name. -/
  value : Json
  failure : Failure
  deriving DecidableEq, Repr

namespace Violation

def within (schemaAt instanceAt : Pointer) (v : Violation) : Violation :=
  { v with schemaAt := schemaAt ++ v.schemaAt, instanceAt := instanceAt ++ v.instanceAt }

def message (v : Violation) : String := v.failure.message v.value

def text (v : Violation) : String :=
  "  " ++ (if v.instanceAt.isEmpty then "(root)" else v.instanceAt.text) ++ ": " ++ v.message

end Violation

end CallContract
