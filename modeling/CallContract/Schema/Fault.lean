import CallContract.Schema.Failure
import CallContract.Schema.Reference

/-!
# Faults of schema documents

What keeps a document from being used as a schema: a piece of the wrong shape,
a pattern that cannot be read, or a reference that leads nowhere.
-/

set_option autoImplicit false

namespace CallContract

inductive Fault where
  /-- A piece of the wrong shape, with what is wrong about it. -/
  | piece (value : Json) (failure : Failure)
  /-- A name that is no kind, or names of properties that are no object. -/
  | unexpectedType
  | unreadablePattern (source : String)
  | deadReference (cause : Schema.DeadReference)
  | badCount (keyword : String)
  deriving DecidableEq, Repr

def Fault.message : Fault → String
  | .piece value failure => failure.message value
  | .unexpectedType => "Unexpected type"
  | .unreadablePattern source => Json.quote source ++ " is not a \"regex\""
  | .deadReference cause => cause.message
  | .badCount keyword => "'" ++ keyword ++ "' must be a non-negative integer"

end CallContract
