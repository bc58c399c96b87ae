import CallContract.Argument.Slot
import CallContract.Schema.Splice

/-!
# The form of an argument list

Building a form finds the schema of every slot and one input schema for the
whole list: the tuple of the regular slots, titled with their names, and after
it what the slot for the rest takes. That is the slot's own sequence schema; or,
if no schema is given, the form of its nested list, or a sequence of anything.
-/

set_option autoImplicit false

namespace CallContract

structure Binding where
  name : String
  schema : Schema
  position : Nat
  role : Role
  deriving DecidableEq, Repr

inductive FormError where
  | misplacedRest (cause : Slot.Misplacement)
  | restNotSequence (schema : Schema)
  | unknownType (type : TypeToken) (argument : String)
  | schema (cause : SchemaError)
  deriving DecidableEq, Repr

def FormError.message : FormError → String
  | .misplacedRest cause => "bad rest-argument binding: " ++ cause.message
  | .restNotSequence s => "expected sequence schema for rest args, got " ++ s.compact
  | .unknownType type argument =>
    "no schema registered for type '" ++ type.name ++ "' on argument '" ++ argument ++ "'"
  | .schema cause => cause.message

structure ArgumentForm where
  regular : List Binding
  rest : Option Binding
  input : Schema
  deriving DecidableEq, Repr

namespace ArgumentForm

def arity (f : ArgumentForm) : Nat := f.regular.length

def isVariadic (f : ArgumentForm) : Bool := f.rest.isSome

structure Parts where
  regular : List Binding
  rest : Option (Binding × Schema)
  deriving DecidableEq, Repr

namespace Parts

def head (p : Parts) : Schema :=
  Schema.tuple (p.regular.map fun b => (b.schema, [("title", .str b.name)]))

def input (p : Parts) : Except SchemaError Schema :=
  match p.rest with
  | none => .ok p.head
  | some (_, tail) => Schema.concat p.head tail

end Parts

def resolve (types : Registry) (argument : String) : Typing → Except FormError Schema
  | .none => .ok Schema.any
  | .schema s => .ok s
  | .type t => match types.lookup t with
    | some s => .ok s
    | none => .error (.unknownType t argument)

def tailOf (s : Schema) (inner : Except FormError Schema) : Except FormError Schema :=
  if Schema.isAny s then inner
  else if Schema.isSequence s then .ok s
  else .error (.restNotSequence s)

namespace Parts

def addRegular (p : Parts) (b : Binding) : Parts := { p with regular := b :: p.regular }

def addRest (p : Parts) (b : Binding) (tail : Schema) : Parts :=
  { p with rest := p.rest.or (some (b, tail)) }

end Parts

def partsFrom (types : Registry) : Nat → List Slot → Except FormError Parts
  | _, [] => .ok ⟨[], none⟩
  | i, .named name a .regular :: more => do
    let s ← resolve types name a
    let parts ← partsFrom types (i + 1) more
    .ok (parts.addRegular ⟨name, s, i, .regular⟩)
  | i, .named name a .rest :: more => do
    let s ← resolve types name a
    let tail ← tailOf s (.ok (Schema.sequenceOf Schema.any))
    let parts ← partsFrom types (i + 1) more
    .ok (parts.addRest ⟨name, s, i, .rest⟩ tail)
  | i, .nested inner a .regular :: more => do
    let name := Slot.nameAt (.nested inner a .regular) i
    let s ← resolve types name a
    let parts ← partsFrom types (i + 1) more
    .ok (parts.addRegular ⟨name, s, i, .regular⟩)
  | i, .nested inner a .rest :: more => do
    let name := Slot.nameAt (.nested inner a .rest) i
    let s ← resolve types name a
    let tail ← tailOf s (match partsFrom types 0 inner with
      | .ok parts => parts.input.mapError .schema
      | .error e => .error e)
    let parts ← partsFrom types (i + 1) more
    .ok (parts.addRest ⟨name, s, i, .rest⟩ tail)

/-- The form of a list of slots. A misplaced slot for the rest is reported before anything else. -/
def build (types : Registry) (slots : List Slot) : Except FormError ArgumentForm :=
  match Slot.misplaced? slots with
  | some cause => .error (.misplacedRest cause)
  | none => do
    let parts ← partsFrom types 0 slots
    let input ← parts.input.mapError .schema
    .ok ⟨parts.regular, parts.rest.map (·.1), input⟩

end ArgumentForm

end CallContract
