import CallContract.Schema.Basic
import CallContract.Json.Printer

/-!
# Why a value fails a keyword

Each failure is a cause; `Failure.message` is its wording for the value that
failed. Counts of one take the singular.
-/

set_option autoImplicit false

namespace CallContract

inductive Failure where
  | wrongKind (kind : Kind)
  | wrongKinds (kinds : List Kind)
  | notListed (options : Json)
  | notConstant (expected : Json)
  | belowMinimum (limit : Number)
  | aboveMaximum (limit : Number)
  | notAboveMinimum (limit : Number)
  | notBelowMaximum (limit : Number)
  | notMultiple (divisor : Binary64)
  | tooShort (least : Nat)
  | tooLong (most : Nat)
  | tooFewItems (least : Nat)
  | tooManyItems (most : Nat)
  | tooFewProperties (least : Nat)
  | tooManyProperties (most : Nat)
  | repeatedItems
  | noMatch (pattern : String)
  | searchGivenUp
  | containsNone
  | missing (name : String)
  | unexpected (names : List String)
  | refused
  | noAlternative
  | noSoleAlternative
  | severalAlternatives
  | excluded (schema : Schema)
  deriving DecidableEq, Repr

namespace Failure

def counted (n : Nat) (one many : String) : String :=
  toString n ++ " " ++ (if n = 1 then one else many)

def message (failure : Failure) (value : Json) : String :=
  let v := value.compact
  match failure with
  | .wrongKind kind => v ++ " is not of type \"" ++ kind.name ++ "\""
  | .wrongKinds kinds =>
    let names := (Kind.all.filter (kinds.contains ·)).map fun k => "\"" ++ k.name ++ "\""
    v ++ " is not of types " ++ ", ".intercalate names
  | .notListed options => v ++ " is not one of " ++ options.compact
  | .notConstant expected => expected.compact ++ " was expected"
  | .belowMinimum limit => v ++ " is less than the minimum of " ++ limit.text
  | .aboveMaximum limit => v ++ " is greater than the maximum of " ++ limit.text
  | .notAboveMinimum limit => v ++ " is less than or equal to the minimum of " ++ limit.text
  | .notBelowMaximum limit => v ++ " is greater than or equal to the maximum of " ++ limit.text
  | .notMultiple divisor => v ++ " is not a multiple of " ++ divisor.positional
  | .tooShort n => v ++ " is shorter than " ++ counted n "character" "characters"
  | .tooLong n => v ++ " is longer than " ++ counted n "character" "characters"
  | .tooFewItems n => v ++ " has less than " ++ counted n "item" "items"
  | .tooManyItems n => v ++ " has more than " ++ counted n "item" "items"
  | .tooFewProperties n => v ++ " has less than " ++ counted n "property" "properties"
  | .tooManyProperties n => v ++ " has more than " ++ counted n "property" "properties"
  | .repeatedItems => v ++ " has non-unique elements"
  | .noMatch pattern => v ++ " does not match \"" ++ pattern ++ "\""
  | .searchGivenUp => "Error executing regex: Max limit for backtracking count exceeded"
  | .containsNone => "None of " ++ v ++ " are valid under the given schema"
  | .missing name => Json.quote name ++ " is a required property"
  | .unexpected names =>
    "Additional properties are not allowed ("
      ++ ", ".intercalate (names.map fun n => "'" ++ n ++ "'")
      ++ (if names.length = 1 then " was unexpected)" else " were unexpected)")
  | .refused => "False schema does not allow " ++ v
  | .noAlternative => v ++ " is not valid under any of the schemas listed in the 'anyOf' keyword"
  | .noSoleAlternative =>
    v ++ " is not valid under any of the schemas listed in the 'oneOf' keyword"
  | .severalAlternatives =>
    v ++ " is valid under more than one of the schemas listed in the 'oneOf' keyword"
  | .excluded schema => schema.compact ++ " is not allowed for " ++ v

end Failure

end CallContract
