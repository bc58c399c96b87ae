import CallContract.Argument.Form
import CallContract.Schema.Explainer

/-!
# Errors of definitions and calls

Every error is a cause with its data; `message` is its wording.
-/

set_option autoImplicit false

namespace CallContract

inductive DefinitionError where
  | form (cause : FormError)
  | schema (cause : SchemaError)
  | duplicateArity (arity : Nat)
  | variadicAmong (arities : Nat)
  | conflictingTags
  | noArities
  deriving DecidableEq, Repr

def DefinitionError.message : DefinitionError → String
  | .form cause => cause.message
  | .schema cause => cause.message
  | .duplicateArity n =>
    "arities must be distinct: arity " ++ toString n ++ " declared more than once"
  | .variadicAmong n =>
    "variadic arity cannot take part in multi-arity dispatch (" ++ toString n
      ++ " arities declared)"
  | .conflictingTags => "function cannot be tagged both never-validate and always-validate"
  | .noArities => "function declares no arities"

inductive Direction where
  | input
  | output
  deriving DecidableEq, Repr

def Direction.name : Direction → String
  | .input => "input"
  | .output => "output"

inductive Moment where
  | pre
  | post
  deriving DecidableEq, Repr

def Moment.name : Moment → String
  | .pre => "pre"
  | .post => "post"

inductive CallError where
  | invalid (direction : Direction) (schema : Schema) (why : Explanation)
  | arityMismatch (function : String) (count : Nat)
  | condition (moment : Moment) (description : String)
  | body (cause : String)
  | schema (cause : SchemaError)
  deriving DecidableEq, Repr

namespace CallError

def message : CallError → String
  | .invalid direction s why =>
    "invalid " ++ direction.name ++ " for schema " ++ s.compact ++ ":\n" ++ why.text
  | .arityMismatch function count =>
    "function '" ++ function ++ "' has no arity accepting " ++ toString count ++ " arguments"
  | .condition moment description => moment.name ++ "-condition failed: " ++ description
  | .body cause => "function body failed: " ++ cause
  | .schema cause => cause.message

def isValidation : CallError → Bool
  | .invalid _ _ _ => true
  | _ => false

end CallError

end CallContract
