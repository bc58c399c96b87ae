import CallContract.Schema.Shape
import CallContract.Pattern.Basic

/-!
# Which documents are schemas

A document is a schema if all its places have their shapes, and if everything
it uses is in order: every pattern can be read, every reference leads somewhere,
and what references lead to can be read, too. Places that are no schemas by
their position need no shape of their own, only to be readable. Shapes come
first, then uses in the order of reading, so the first fault is the one that is
reported.
-/

set_option autoImplicit false

namespace CallContract

namespace Schema

def useFaults (root : Schema) : Use → List Fault
  | .pattern source =>
    if (Pattern.parse? source).isSome then [] else [.unreadablePattern source]
  | .reference target => match follow root target with
    | .ok _ => []
    | .error cause => [.deadReference cause]
  | .fault cause => [cause]

def faults (s : Schema) : List Fault :=
  shapeFaults s ++ (reachedUses s [] (uses s)).1.flatMap (useFaults s)

def fault? (s : Schema) : Option Fault := (faults s).head?

end Schema

inductive SchemaError where
  | malformed (schema : Schema) (fault : Fault)
  | unsupportedKeyword (keyword : String) (schema : Schema)
  | notATuple (schema : Schema)
  /-- A sum of counts that is no count. It is not reported: the program stops where it makes it. -/
  | overflow
  deriving DecidableEq, Repr

def SchemaError.message : SchemaError → String
  | .malformed schema fault => "malformed schema " ++ schema.compact ++ ": " ++ fault.message
  | .unsupportedKeyword keyword schema =>
    "unsupported keyword '" ++ keyword ++ "' in sequence schema " ++ schema.compact
  | .notATuple schema => "expected tuple schema, got " ++ schema.compact
  | .overflow => "attempt to add with overflow"

def Schema.check (s : Schema) : Except SchemaError Unit :=
  match s.fault? with
  | none => .ok ()
  | some fault => .error (.malformed s fault)

end CallContract
