import CallContract.Function.Compile
import CallContract.Function.SimpleBody

/-!
# Declarations

Functions and named types as they are declared in a file. A declared slot has
each of its fields or not, and nothing yet says that they fit together:
`DeclaredSlot.toSlot` refuses a slot unless it has exactly one of a name and
nested slots and at most one of a schema and a type.
-/

set_option autoImplicit false

namespace CallContract

structure DeclaredSlot where
  name : Option String
  schema : Option Schema
  type : Option String
  args : Option (List DeclaredSlot)
  deriving Repr, Inhabited

structure DeclaredArity where
  args : List DeclaredSlot
  rest : Option DeclaredSlot
  deriving Repr, Inhabited

structure DeclaredFunction where
  name : String
  output : Option Schema
  tags : Tags
  arities : List DeclaredArity
  deriving Repr

structure Declarations where
  /-- In the order of their names, each name once. -/
  types : List (String × Schema)
  functions : List DeclaredFunction
  deriving Repr

inductive SlotError where
  | nameAndArgs
  | neitherNameNorArgs
  | schemaAndType
  deriving DecidableEq, Repr

def SlotError.message : SlotError → String
  | .nameAndArgs => "slot cannot have both 'name' and 'args'"
  | .neitherNameNorArgs => "slot needs a 'name' or nested 'args'"
  | .schemaAndType => "slot cannot have both 'schema' and 'type'"

namespace DeclaredSlot

def typing (schema : Option Schema) (type : Option String) : Except SlotError Typing :=
  match schema, type with
  | some _, some _ => .error .schemaAndType
  | some s, none => .ok (.schema s)
  | none, some t => .ok (.type (.named t))
  | none, none => .ok .none

mutual

def toSlot (role : Role) : DeclaredSlot → Except SlotError Slot
  | ⟨some _, _, _, some _⟩ => .error .nameAndArgs
  | ⟨none, _, _, none⟩ => .error .neitherNameNorArgs
  | ⟨some name, schema, type, none⟩ => do .ok (.named name (← typing schema type) role)
  | ⟨none, schema, type, some args⟩ => do
    let inner ← toSlots args
    .ok (.nested inner (← typing schema type) role)

def toSlots : List DeclaredSlot → Except SlotError (List Slot)
  | [] => .ok []
  | s :: more => do
    let slot ← toSlot .regular s
    let slots ← toSlots more
    .ok (slot :: slots)

end

end DeclaredSlot

def DeclaredArity.toSlots (a : DeclaredArity) : Except SlotError (List Slot) := do
  let regular ← DeclaredSlot.toSlots a.args
  match a.rest with
  | none => .ok regular
  | some rest => do .ok (regular ++ [← rest.toSlot .rest])

structure ArityError where
  function : String
  index : Nat
  cause : SlotError
  deriving DecidableEq, Repr

namespace ArityError

def place (e : ArityError) : String :=
  "function '" ++ e.function ++ "', arity #" ++ toString e.index

def message (e : ArityError) : String := e.place ++ ": " ++ e.cause.message

end ArityError

namespace DeclaredFunction

variable {σ : Type}

def bodiesFrom (f : DeclaredFunction) (result : Json) :
    Nat → List DeclaredArity → Except ArityError (List (ArityBody σ))
  | _, [] => .ok []
  | i, a :: more => do
    let slots ← a.toSlots.mapError fun cause => ⟨f.name, i, cause⟩
    let bodies ← f.bodiesFrom result (i + 1) more
    .ok (⟨slots, .const result, [], []⟩ :: bodies)

def toDef (f : DeclaredFunction) (result : Json) : Except ArityError (FunctionDef σ) := do
  let bodies ← f.bodiesFrom result 0 f.arities
  .ok ⟨f.name, f.output.getD Schema.any, f.tags, bodies⟩

end DeclaredFunction

namespace Declarations

def registry (d : Declarations) : Registry :=
  Registry.empty.insertAll (d.types.map fun (name, s) => (.named name, s))

def function? (d : Declarations) (name : String) : Option DeclaredFunction :=
  d.functions.find? (·.name == name)

end Declarations

end CallContract
