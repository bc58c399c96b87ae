import CallContract.Schema.Fault

/-!
# Keywords

An object schema is read as the list of its keywords, in key order. Reading
looks at sibling keywords where one changes what another means: `items` starts
after `prefixItems`, `if` needs a `then` or an `else`, and `additionalProperties`
takes over the work of `properties` unless it is `true`. An entry that asks
nothing is no keyword, and one that makes no sense is a fault.

A keyword holds its parts, which are schemas or what is made of them. Their
order is the one in which they are read.
-/

set_option autoImplicit false

namespace CallContract

inductive Keyword (σ : Type) where
  | type (kind : Kind)
  | types (kinds : List Kind)
  | enum (options : List Json)
  | const (expected : Json)
  | minimum (limit : Number)
  | maximum (limit : Number)
  | exclusiveMinimum (limit : Number)
  | exclusiveMaximum (limit : Number)
  | multipleOf (divisor : Binary64)
  | minLength (least : Nat)
  | maxLength (most : Nat)
  | minItems (least : Nat)
  | maxItems (most : Nat)
  | minProperties (least : Nat)
  | maxProperties (most : Nat)
  | uniqueItems
  | pattern (source : String)
  | required (names : List String)
  | dependentRequired (needs : List (String × List String))
  | reference (target : String)
  | allOf (schemas : List σ)
  | anyOf (schemas : List σ)
  | oneOf (schemas : List σ)
  | not (schema : σ)
  | branch (test : σ) (yes no : Option σ)
  | items (skip : Nat) (schema : σ)
  | itemList (schemas : List σ)
  | prefixItems (schemas : List σ)
  | contains (schema : σ)
  | properties (named : List (String × σ))
  | noProperties
  | onlyProperties (named : List (String × σ))
  | otherProperties (named : List (String × σ)) (schema : σ)
  | propertyNames (schema : σ)
  deriving DecidableEq, Repr

namespace Keyword

def name {σ : Type} : Keyword σ → String
  | .type _ => "type"
  | .types _ => "type"
  | .enum _ => "enum"
  | .const _ => "const"
  | .minimum _ => "minimum"
  | .maximum _ => "maximum"
  | .exclusiveMinimum _ => "exclusiveMinimum"
  | .exclusiveMaximum _ => "exclusiveMaximum"
  | .multipleOf _ => "multipleOf"
  | .minLength _ => "minLength"
  | .maxLength _ => "maxLength"
  | .minItems _ => "minItems"
  | .maxItems _ => "maxItems"
  | .minProperties _ => "minProperties"
  | .maxProperties _ => "maxProperties"
  | .uniqueItems => "uniqueItems"
  | .pattern _ => "pattern"
  | .required _ => "required"
  | .dependentRequired _ => "dependentRequired"
  | .reference _ => "$ref"
  | .allOf _ => "allOf"
  | .anyOf _ => "anyOf"
  | .oneOf _ => "oneOf"
  | .not _ => "not"
  | .branch _ _ _ => "if"
  | .items _ _ => "items"
  | .itemList _ => "items"
  | .prefixItems _ => "prefixItems"
  | .contains _ => "contains"
  | .properties _ => "properties"
  | .noProperties => "additionalProperties"
  | .onlyProperties _ => "additionalProperties"
  | .otherProperties _ _ => "additionalProperties"
  | .propertyNames _ => "propertyNames"

def parts {σ : Type} : Keyword σ → List σ
  | .allOf schemas | .anyOf schemas | .oneOf schemas => schemas
  | .itemList schemas | .prefixItems schemas => schemas
  | .not s | .items _ s | .contains s | .propertyNames s => [s]
  | .branch test yes no => test :: (yes.toList ++ no.toList)
  | .properties named | .onlyProperties named => named.map (·.2)
  | .otherProperties named s => named.map (·.2) ++ [s]
  | _ => []

def mapParts {σ τ : Type} {m : Type → Type} [Monad m] (f : σ → m τ) : Keyword σ → m (Keyword τ)
  | .type kind => pure (.type kind)
  | .types kinds => pure (.types kinds)
  | .enum options => pure (.enum options)
  | .const expected => pure (.const expected)
  | .minimum limit => pure (.minimum limit)
  | .maximum limit => pure (.maximum limit)
  | .exclusiveMinimum limit => pure (.exclusiveMinimum limit)
  | .exclusiveMaximum limit => pure (.exclusiveMaximum limit)
  | .multipleOf divisor => pure (.multipleOf divisor)
  | .minLength least => pure (.minLength least)
  | .maxLength most => pure (.maxLength most)
  | .minItems least => pure (.minItems least)
  | .maxItems most => pure (.maxItems most)
  | .minProperties least => pure (.minProperties least)
  | .maxProperties most => pure (.maxProperties most)
  | .uniqueItems => pure .uniqueItems
  | .pattern source => pure (.pattern source)
  | .required names => pure (.required names)
  | .dependentRequired needs => pure (.dependentRequired needs)
  | .reference target => pure (.reference target)
  | .allOf schemas => return .allOf (← schemas.mapM f)
  | .anyOf schemas => return .anyOf (← schemas.mapM f)
  | .oneOf schemas => return .oneOf (← schemas.mapM f)
  | .not s => return .not (← f s)
  | .branch test yes no => return .branch (← f test) (← yes.mapM f) (← no.mapM f)
  | .items skip s => return .items skip (← f s)
  | .itemList schemas => return .itemList (← schemas.mapM f)
  | .prefixItems schemas => return .prefixItems (← schemas.mapM f)
  | .contains s => return .contains (← f s)
  | .properties named => return .properties (← named.mapM fun (k, s) => return (k, ← f s))
  | .noProperties => pure .noProperties
  | .onlyProperties named =>
    return .onlyProperties (← named.mapM fun (k, s) => return (k, ← f s))
  | .otherProperties named s =>
    return .otherProperties (← named.mapM fun (k, s) => return (k, ← f s)) (← f s)
  | .propertyNames s => return .propertyNames (← f s)

abbrev Reading := Except Fault (Option (Keyword Schema))

def notA {α : Type} (kind : Kind) (value : Json) : Except Fault α :=
  .error (.piece value (.wrongKind kind))

def found (k : Keyword Schema) : Reading := .ok (some k)

def strings : List Json → Except Fault (List String)
  | [] => .ok []
  | .str s :: rest => (strings rest).map (s :: ·)
  | x :: _ => notA .string x

def needs : Entries → Except Fault (List (String × List String))
  | [] => .ok []
  | (key, .arr list) :: rest =>
    if Json.distinct list then do
      let names ← strings list
      return (key, names) :: (← needs rest)
    else .error (.piece (.arr list) .repeatedItems)
  | (_, x) :: _ => notA .array x

def kindNames : Json := .arr (Kind.all.map fun k => .str k.name)

def kinds : List Json → Except Fault (List Kind)
  | [] => .ok []
  | .str s :: rest => match Kind.ofName? s with
    | some k => (kinds rest).map (k :: ·)
    | none => .error (.piece (.str s) (.notListed kindNames))
  | x :: _ => notA .string x

def ofKindName (name : String) : Reading :=
  match Kind.ofName? name with
  | some k => found (.type k)
  | none => .error .unexpectedType

def ofType : Json → Reading
  | .str name => ofKindName name
  | .arr [.str name] => ofKindName name
  | .arr [x] => notA .string x
  | .arr list => (kinds list).map (some ∘ .types)
  | x => .error (.piece x (.wrongKinds [.array, .string]))

def ofLimit (make : Nat → Keyword Schema) : Json → Reading
  | .num n => match n.toLimit? with
    | some limit => found (make limit)
    | none => notA .integer (.num n)
  | x => notA .integer x

def ofNumber (make : Number → Keyword Schema) : Json → Reading
  | .num n => found (make n)
  | x => notA .number x

def ofString (make : String → Keyword Schema) : Json → Reading
  | .str s => found (make s)
  | x => notA .string x

def ofList (make : List Json → Keyword Schema) : Json → Reading
  | .arr list => found (make list)
  | x => notA .array x

/-- Whether `additionalProperties` does the work of `properties`. -/
def takesOver (siblings : Entries) : Bool :=
  match siblings.lookup "additionalProperties" with
  | some (.bool false) => true
  | some (.obj _) => true
  | _ => false

def ofAdditional : Option Json → Json → Reading
  | _, .bool true => .ok none
  | none, .bool false => found .noProperties
  | none, s => found (.otherProperties [] s)
  | some (.obj named), .bool false => found (.onlyProperties named)
  | some (.obj named), s => found (.otherProperties named s)
  | some _, _ => .error .unexpectedType

def prefixCount (siblings : Entries) : Nat :=
  match siblings.lookup "prefixItems" with
  | some (.arr schemas) => schemas.length
  | _ => 0

def read (siblings : Entries) (key : String) (value : Json) : Reading :=
  match key with
  | "type" => ofType value
  | "enum" => ofList .enum value
  | "const" => found (.const value)
  | "minimum" => ofNumber .minimum value
  | "maximum" => ofNumber .maximum value
  | "exclusiveMinimum" => ofNumber .exclusiveMinimum value
  | "exclusiveMaximum" => ofNumber .exclusiveMaximum value
  | "multipleOf" => ofNumber (fun n => .multipleOf n.toBinary64) value
  | "minLength" => ofLimit .minLength value
  | "maxLength" => ofLimit .maxLength value
  | "minItems" => ofLimit .minItems value
  | "maxItems" => ofLimit .maxItems value
  | "minProperties" => ofLimit .minProperties value
  | "maxProperties" => ofLimit .maxProperties value
  | "uniqueItems" => match value with
    | .bool true => found .uniqueItems
    | _ => .ok none
  | "pattern" => ofString .pattern value
  | "required" => match value with
    | .arr list => (strings list).map (some ∘ .required)
    | x => notA .array x
  | "dependentRequired" => match value with
    | .obj entries => (needs entries).map (some ∘ .dependentRequired)
    | x => notA .object x
  | "$ref" => ofString .reference value
  | "allOf" => ofList .allOf value
  | "anyOf" => ofList .anyOf value
  | "oneOf" => ofList .oneOf value
  | "not" => found (.not value)
  | "if" => match siblings.lookup "then", siblings.lookup "else" with
    | none, none => .ok none
    | yes, no => found (.branch value yes no)
  | "items" => match value with
    | .arr schemas => found (.itemList schemas)
    | .obj _ | .bool false => found (.items (prefixCount siblings) value)
    | _ => .ok none
  | "prefixItems" => ofList .prefixItems value
  | "contains" => found (.contains value)
  | "properties" =>
    if takesOver siblings then .ok none
    else match value with
      | .obj named => found (.properties named)
      | x => notA .object x
  | "additionalProperties" => ofAdditional (siblings.lookup "properties") value
  | "propertyNames" => match value with
    | .obj _ | .bool false => found (.propertyNames value)
    | _ => .ok none
  | _ => .ok none

def ofEntry? (siblings : Entries) (key : String) (value : Json) : Option (Keyword Schema) :=
  match read siblings key value with
  | .ok k => k
  | .error _ => none

def ofEntries (entries : Entries) : List (Keyword Schema) :=
  entries.filterMap fun (k, v) => ofEntry? entries k v

end Keyword

end CallContract
