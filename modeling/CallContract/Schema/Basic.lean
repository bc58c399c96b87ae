import CallContract.Json.Equality

/-!
# Schema documents

A schema is any JSON value used as a description of other values. `true`
accepts everything and is the sentinel for "no schema given"; an object is a
sequence if its `type` is the text `array`, and a tuple if it is a sequence
whose `prefixItems`, when there, are a list.
-/

set_option autoImplicit false

namespace CallContract

abbrev Schema := Json

inductive Kind where
  | array
  | boolean
  | integer
  | null
  | number
  | object
  | string
  deriving DecidableEq, Repr, Inhabited

namespace Kind

def all : List Kind := [.array, .boolean, .integer, .null, .number, .object, .string]

def name : Kind → String
  | .array => "array"
  | .boolean => "boolean"
  | .integer => "integer"
  | .null => "null"
  | .number => "number"
  | .object => "object"
  | .string => "string"

def ofName? (s : String) : Option Kind := all.find? (·.name == s)

def has : Kind → Json → Bool
  | .array, .arr _ => true
  | .boolean, .bool _ => true
  | .integer, .num n => n.isIntegral
  | .null, .null => true
  | .number, .num _ => true
  | .object, .obj _ => true
  | .string, .str _ => true
  | _, _ => false

end Kind

namespace Schema

def any : Schema := .bool true

def isAny : Schema → Bool
  | .bool true => true
  | _ => false

def keyword? (s : Schema) (name : String) : Option Json := s.field? name

def isSequence (s : Schema) : Bool :=
  match s.keyword? "type" with
  | some (.str t) => t == "array"
  | _ => false

def elements? (s : Schema) : Option (List Json) :=
  if s.isSequence then
    match s.keyword? "prefixItems" with
    | none => some []
    | some (.arr items) => some items
    | some _ => none
  else none

def tupleLength? (s : Schema) : Option Nat := s.elements?.map List.length

end Schema

end CallContract
