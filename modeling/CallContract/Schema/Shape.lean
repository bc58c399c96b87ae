import CallContract.Schema.Use
import CallContract.Json.Equality

/-!
# Shapes of schema documents

Every keyword that draft 2020-12 defines has a value of its shape, at every
place where a schema stands. Shapes are looked at vocabulary by vocabulary,
within one in key order, so that the faults come in the order of reporting.
-/

set_option autoImplicit false

namespace CallContract

inductive Shape where
  | schema
  | schemas
  | schemaMap
  | string
  | boolean
  | number
  | positiveNumber
  | size
  | list
  | names
  | nameLists
  | kinds
  deriving DecidableEq, Repr

/-- The vocabularies, in the order in which a document is held against them. -/
inductive Vocabulary where
  | core
  | applicator
  | validation
  | metadata
  | format
  | content
  | legacy
  deriving DecidableEq, Repr

namespace Vocabulary

def all : List Vocabulary :=
  [.core, .applicator, .validation, .metadata, .format, .content, .legacy]

def shapes : Vocabulary → List (String × Shape)
  | .core => [("$anchor", .string), ("$comment", .string), ("$defs", .schemaMap),
      ("$dynamicAnchor", .string), ("$dynamicRef", .string), ("$id", .string), ("$ref", .string),
      ("$schema", .string)]
  | .applicator => [("additionalProperties", .schema), ("allOf", .schemas), ("anyOf", .schemas),
      ("contains", .schema), ("else", .schema), ("if", .schema), ("items", .schema),
      ("not", .schema), ("oneOf", .schemas), ("prefixItems", .schemas), ("properties", .schemaMap),
      ("propertyNames", .schema), ("then", .schema)]
  | .validation => [("dependentRequired", .nameLists), ("enum", .list),
      ("exclusiveMaximum", .number), ("exclusiveMinimum", .number), ("maxItems", .size),
      ("maxLength", .size), ("maxProperties", .size), ("maximum", .number), ("minItems", .size),
      ("minLength", .size), ("minProperties", .size), ("minimum", .number),
      ("multipleOf", .positiveNumber), ("pattern", .string), ("required", .names),
      ("type", .kinds), ("uniqueItems", .boolean)]
  | .metadata => [("deprecated", .boolean), ("description", .string), ("examples", .list),
      ("readOnly", .boolean), ("title", .string), ("writeOnly", .boolean)]
  | .format => [("format", .string)]
  | .content => [("contentEncoding", .string), ("contentMediaType", .string),
      ("contentSchema", .schema)]
  | .legacy => [("definitions", .schemaMap)]

def shape? (voc : Vocabulary) (keyword : String) : Option Shape := voc.shapes.lookup keyword

end Vocabulary

namespace Schema

def notOf (kind : Kind) (x : Json) : List Fault :=
  if kind.has x then [] else [.piece x (.wrongKind kind)]

def ifEmpty (items : List Json) : List Fault :=
  if items.isEmpty then [.piece (.arr items) (.tooFewItems 1)] else []

def ifRepeated (items : List Json) : List Fault :=
  if Json.distinct items then [] else [.piece (.arr items) .repeatedItems]

def sizeFaults (x : Json) : List Fault :=
  (match x with
    | .num n => if n.value < 0 then [.piece x (.belowMinimum (.int 0))] else []
    | _ => []) ++ notOf .integer x

def positiveFaults (x : Json) : List Fault :=
  (match x with
    | .num n => if n.value ≤ 0 then [.piece x (.notAboveMinimum (.int 0))] else []
    | _ => []) ++ notOf .number x

def nameFaults : Json → List Fault
  | .arr names => names.flatMap (notOf .string) ++ ifRepeated names
  | x => notOf .array x

def nameListFaults : Json → List Fault
  | .obj entries => entries.flatMap fun (_, x) => nameFaults x
  | x => notOf .object x

def isKindName : Json → Bool
  | .str s => (Kind.ofName? s).isSome
  | _ => false

def kindFaults (x : Json) : List Fault :=
  let good := match x with
    | .arr items => !items.isEmpty && items.all isKindName && Json.distinct items
    | x => isKindName x
  if good then [] else [.piece x .noAlternative]

def plainFaults : Shape → Json → List Fault
  | .string, x => notOf .string x
  | .boolean, x => notOf .boolean x
  | .number, x => notOf .number x
  | .positiveNumber, x => positiveFaults x
  | .size, x => sizeFaults x
  | .list, x => notOf .array x
  | .names, x => nameFaults x
  | .nameLists, x => nameListFaults x
  | .kinds, x => kindFaults x
  | .schema, _ => []
  | .schemas, _ => []
  | .schemaMap, _ => []

mutual

def shapeFaults : Schema → List Fault
  | .bool _ => []
  | .obj entries => Vocabulary.all.flatMap fun voc => entryFaults voc entries
  | x => [.piece x (.wrongKinds [.boolean, .object])]

def entryFaults (voc : Vocabulary) : List (String × Json) → List Fault
  | [] => []
  | (key, x) :: rest =>
    (match voc.shape? key with
      | none => []
      | some .schema => shapeFaults x
      | some .schemas => match x with
        | .arr items => itemFaults items ++ ifEmpty items
        | x => notOf .array x
      | some .schemaMap => match x with
        | .obj members => memberFaults members
        | x => notOf .object x
      | some shape => plainFaults shape x)
    ++ entryFaults voc rest

def itemFaults : List Json → List Fault
  | [] => []
  | x :: rest => shapeFaults x ++ itemFaults rest

def memberFaults : List (String × Json) → List Fault
  | [] => []
  | (_, x) :: rest => shapeFaults x ++ memberFaults rest

end

end Schema

end CallContract
