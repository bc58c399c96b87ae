import CallContract.Schema.Spot
import CallContract.Schema.Violation
import CallContract.Pattern.Basic

/-!
# Evaluation of schemas

`Schema.accepts` decides and stops at the first failure; `Schema.violations`
collects every failure in keyword order. They are two traversals: the second
asks the first only where a keyword reports once for all its parts (`anyOf`,
`oneOf`, `not`, `contains`, the test of `if`).

References may lead back to a schema that is being used. Each step into a part
or through a reference spends one unit of a budget. `Schema.budget` has a unit
for every pair of a place in the document and a level of the value, so only an
evaluation that comes back to the same schema on the same value runs out. Such
an evaluation never ends by itself and decides nothing: the value is taken to be
accepted at the step that finds no unit left, so that under `not`, for one, the
answer of the whole goes with the parity of the budget. Theorems on answers take
the verdict as given, or ask for schemas whose evaluation ends (`Schema.Guarded`).
-/

set_option autoImplicit false

namespace CallContract

namespace Number

/-- Whether a number is a multiple of a divisor. A whole divisor divides exactly, and nothing is a
multiple of zero. For any other divisor the quotient is rounded to a double and its fraction has to
be below `2 ^ -52`, which every negative quotient meets. Where the quotient is beyond all doubles,
that of the fractions over powers of ten has to be whole, and everything is a multiple of a divisor
that such a fraction takes for zero. -/
def isMultipleOf (n : Number) (divisor : Binary64) : Bool :=
  let x := n.toBinary64
  if divisor.isIntegral then
    x.isIntegral && divisor.value ≠ 0 && (x.value / divisor.value).den == 1
  else match x.div? divisor with
    | some q => q.negative || decide (q.value - q.value.floor < Binary64.epsilon)
    | none => (x.tenthsValue / divisor.tenthsValue).den == 1

def closeTo (m n : Number) : Bool :=
  match m.toBinary64.sub? n.toBinary64 with
  | some d => d.value < Binary64.epsilon && -d.value < Binary64.epsilon
  | none => false

end Number

namespace Schema

def isConstant : Json → Json → Bool
  | .num m, .num n => m.closeTo n
  | a, b => Json.sameValue a b

/-- Why a text does not match a pattern. A text that is no pattern forbids nothing. -/
def mismatch? (source s : String) : Option Failure :=
  match Pattern.parse? source with
  | none => none
  | some p => match p.verdict s with
    | .found => none
    | .absent => some (.noMatch source)
    | .gaveUp => some .searchGivenUp

def hasKey (entries : Entries) (name : String) : Bool := (entries.lookup name).isSome

def absent (names : List String) (entries : Entries) : List String :=
  names.filter fun n => !hasKey entries n

end Schema

def positions (items : List Json) : List (Nat × Json) :=
  items.mapIdx fun i x => (i, x)

namespace Keyword

open Schema

def accepts (target? : String → Option Spot) (part : Spot → Json → Bool) :
    Keyword Spot → Json → Bool
  | .type kind, v => kind.has v
  | .types kinds, v => kinds.any (·.has v)
  | .enum options, v => options.any (Json.sameValue · v)
  | .const expected, v => isConstant expected v
  | .minimum limit, .num n => limit.value ≤ n.value
  | .maximum limit, .num n => n.value ≤ limit.value
  | .exclusiveMinimum limit, .num n => limit.value < n.value
  | .exclusiveMaximum limit, .num n => n.value < limit.value
  | .multipleOf divisor, .num n => n.isMultipleOf divisor
  | .minLength least, .str s => least ≤ s.length
  | .maxLength most, .str s => s.length ≤ most
  | .pattern source, .str s => (mismatch? source s).isNone
  | .minItems least, .arr xs => least ≤ xs.length
  | .maxItems most, .arr xs => xs.length ≤ most
  | .uniqueItems, .arr xs => Json.distinct xs
  | .itemList schemas, .arr xs => (schemas.zip xs).all fun (s, x) => part s x
  | .prefixItems schemas, .arr xs => (schemas.zip xs).all fun (s, x) => part s x
  | .items skip s, .arr xs => (xs.drop skip).all (part s)
  | .contains s, .arr xs => xs.any (part s)
  | .minProperties least, .obj entries => least ≤ entries.length
  | .maxProperties most, .obj entries => entries.length ≤ most
  | .required names, .obj entries => names.all (hasKey entries)
  | .dependentRequired needs, .obj entries =>
    needs.all fun (k, names) => !hasKey entries k || names.all (hasKey entries)
  | .properties named, .obj entries =>
    named.all fun (k, s) => match entries.lookup k with
      | some x => part s x
      | none => true
  | .noProperties, .obj entries => entries.isEmpty
  | .onlyProperties named, .obj entries =>
    entries.all fun (k, x) => match named.lookup k with
      | some s => part s x
      | none => false
  | .otherProperties named other, .obj entries =>
    entries.all fun (k, x) => part ((named.lookup k).getD other) x
  | .propertyNames s, .obj entries => match s.schema with
    | .bool false => entries.isEmpty
    | _ => entries.all fun (k, _) => part s (.str k)
  | .reference target, v => match target? target with
    | some s => part s v
    | none => true
  | .allOf schemas, v => schemas.all (part · v)
  | .anyOf schemas, v => schemas.any (part · v)
  | .oneOf schemas, v => (schemas.filter (part · v)).length == 1
  | .not s, v => !part s v
  | .branch test yes no, v =>
    if part test v then yes.all (part · v) else no.all (part · v)
  | _, _ => true

def fails (k : Keyword Spot) (value : Json) (failure : Failure) : List Violation :=
  [⟨[], [.key k.name], value, failure⟩]

def ifNot (holds : Bool) (vs : List Violation) : List Violation :=
  if holds then [] else vs

/-- All the ways in which a value fails a keyword. `part` decides a part, `explain` lists its
violations. -/
def violations (target? : String → Option Spot) (part : Spot → Json → Bool)
    (explain : Spot → Json → List Violation) (k : Keyword Spot) (v : Json) : List Violation :=
  let unmet := fun vs => ifNot (k.accepts target? part v) vs
  let name := Step.key k.name
  match k, v with
  | .type kind, v => unmet (k.fails v (.wrongKind kind))
  | .types kinds, v => unmet (k.fails v (.wrongKinds kinds))
  | .enum options, v => unmet (k.fails v (.notListed (.arr options)))
  | .const expected, v => unmet (k.fails v (.notConstant expected))
  | .minimum limit, v => unmet (k.fails v (.belowMinimum limit))
  | .maximum limit, v => unmet (k.fails v (.aboveMaximum limit))
  | .exclusiveMinimum limit, v => unmet (k.fails v (.notAboveMinimum limit))
  | .exclusiveMaximum limit, v => unmet (k.fails v (.notBelowMaximum limit))
  | .multipleOf divisor, v => unmet (k.fails v (.notMultiple divisor))
  | .minLength least, v => unmet (k.fails v (.tooShort least))
  | .maxLength most, v => unmet (k.fails v (.tooLong most))
  | .pattern source, .str s => (mismatch? source s).toList.flatMap (k.fails v)
  | .minItems least, v => unmet (k.fails v (.tooFewItems least))
  | .maxItems most, v => unmet (k.fails v (.tooManyItems most))
  | .minProperties least, v => unmet (k.fails v (.tooFewProperties least))
  | .maxProperties most, v => unmet (k.fails v (.tooManyProperties most))
  | .uniqueItems, v => unmet (k.fails v .repeatedItems)
  | .contains _, v => unmet (k.fails v .containsNone)
  | .anyOf _, v => unmet (k.fails v .noAlternative)
  | .oneOf schemas, v =>
    unmet (k.fails v
      (if schemas.any (part · v) then .severalAlternatives else .noSoleAlternative))
  | .not s, v => unmet (k.fails v (.excluded s.schema))
  | .required names, .obj entries =>
    (absent names entries).flatMap fun n => k.fails v (.missing n)
  | .dependentRequired needs, .obj entries =>
    needs.flatMap fun (key, names) =>
      if hasKey entries key then (absent names entries).flatMap fun n => k.fails v (.missing n)
      else []
  | .prefixItems schemas, .arr xs =>
    (positions xs).flatMap fun (i, x) => match schemas[i]? with
      | some s => (explain s x).map (.within [name, .index i] [.index i])
      | none => []
  | .itemList schemas, .arr xs =>
    (positions xs).flatMap fun (i, x) => match schemas[i]? with
      | some s => (explain s x).map (.within [name, .index i] [.index i])
      | none => []
  | .items skip s, .arr xs =>
    ((positions xs).drop skip).flatMap fun (i, x) =>
      (explain s x).map (.within [name] [.index i])
  | .properties named, .obj entries =>
    named.flatMap fun (key, s) => match entries.lookup key with
      | some x => (explain s x).map (.within [name, .key key] [.key key])
      | none => []
  | .noProperties, .obj entries => match entries with
    | [] => []
    | (_, x) :: _ => k.fails x .refused
  | .onlyProperties named, .obj entries =>
    let other := entries.filter fun (key, _) => (named.lookup key).isNone
    (entries.flatMap fun (key, x) => match named.lookup key with
      | some s => (explain s x).map (.within [.key "properties", .key key] [.key key])
      | none => [])
    ++ ifNot other.isEmpty (k.fails v (.unexpected (other.map (·.1))))
  | .otherProperties named other, .obj entries =>
    entries.flatMap fun (key, x) => match named.lookup key with
      | some s => (explain s x).map (.within [.key "properties", .key key] [.key key])
      | none => (explain other x).map (.within [name] [.key key])
  | .propertyNames s, .obj entries => match s.schema with
    | .bool false => ifNot entries.isEmpty (k.fails v .refused)
    | _ => entries.flatMap fun (key, _) =>
      (explain s (.str key)).map (.within [name] [])
  | .reference target, v => match target? target with
    | some s => (explain s v).map (.within [name] [])
    | none => []
  | .allOf schemas, v =>
    (schemas.mapIdx fun i s => (explain s v).map (.within [name, .index i] [])).flatten
  | .branch test yes no, v =>
    if part test v then
      match yes with
      | some s => (explain s v).map (.within [.key "then"] [])
      | none => []
    else
      match no with
      | some s => (explain s v).map (.within [.key "else"] [])
      | none => []
  | _, _ => []

end Keyword

namespace Schema

/-- Whether a schema accepts a value, as far as the budget goes. Where it runs out, evaluation has
come back to where it was, and the answer says nothing: under `not` it is the parity of the
budget. -/
def acceptsWithin (root : Schema) : Nat → Spot → Json → Bool
  | 0, _, _ => true
  | n + 1, spot, v => match spot.schema with
    | .bool b => b
    | .obj entries =>
      (Spot.places root spot.met (Keyword.ofEntries entries)).all fun (met, k) =>
        k.accepts (Spot.target? root met) (acceptsWithin root n) v
    | _ => true

def violationsWithin (root : Schema) : Nat → Spot → Json → List Violation
  | 0, _, _ => []
  | n + 1, spot, v => match spot.schema with
    | .bool true => []
    | .bool false => [⟨[], [], v, .refused⟩]
    | .obj entries =>
      (Spot.places root spot.met (Keyword.ofEntries entries)).flatMap fun (met, k) =>
        k.violations (Spot.target? root met) (acceptsWithin root n) (violationsWithin root n) v
    | _ => []

/-- Enough for every evaluation that ends: one unit for each place of the schema at each level of
the value, a level for property names, and one to end with. -/
def budget (s : Schema) (v : Json) : Nat := s.nodes * (v.depth + 2) + 1

def accepts (s : Schema) (v : Json) : Bool := acceptsWithin s (budget s v) ⟨s, []⟩ v

def violations (s : Schema) (v : Json) : List Violation :=
  violationsWithin s (budget s v) ⟨s, []⟩ v

end Schema

end CallContract
