import CallContract.Declaration.Basic
import CallContract.Text.Quoted
import CallContract.Yaml.Document

/-!
# The shape of a declaration file

Reading a document as declarations. Every part has a known shape: fields that
it may have, some that it must have, and what stands under each of them. The
first thing in the document that has another shape is the error; fields that are
missing are noticed where their mapping ends.
-/

set_option autoImplicit false

namespace CallContract

open Yaml (Node Scalar)

inductive Place where
  | root
  | field (inside : Place) (label : String)
  | item (inside : Place) (index : Nat)
  deriving DecidableEq, Repr

def Place.text : Place → String
  | .root => ""
  | .field .root label => label
  | .field inside label => inside.text ++ "." ++ label
  | .item inside index => inside.text ++ "[" ++ toString index ++ "]"

inductive ShapeFault where
  | wrongKind (found : Node) (expected : String)
  | unknownField (name : String) (known : List String)
  | repeatedField (name : String)
  | missingField (name : String)
  | wideInteger (i : Int)
  deriving Repr

structure ShapeError where
  place : Place
  fault : ShapeFault
  deriving Repr

def floatWords (x : Binary64) : String :=
  x.positional ++ (if x.isIntegral then ".0" else "")

def Yaml.Node.kind : Node → String
  | .sequence _ => "sequence"
  | .mapping _ => "map"
  | .scalar text plain => match Node.meaning text plain with
    | .null => "unit value"
    | .bool b => "boolean `" ++ toString b ++ "`"
    | .int i | .wide i => "integer `" ++ toString i ++ "`"
    | .float x => "floating point `" ++ floatWords x ++ "`"
    | .infinite negative => "floating point `" ++ (if negative then "-inf" else "inf") ++ "`"
    | .nan => "floating point `NaN`"
    | .str s => "string " ++ Quoted.text s

def knownFields : List String → String
  | [a, b] => "`" ++ a ++ "` or `" ++ b ++ "`"
  | known => "one of " ++ ", ".intercalate (known.map fun k => "`" ++ k ++ "`")

def ShapeFault.message : ShapeFault → String
  | .wrongKind found expected => "invalid type: " ++ found.kind ++ ", expected " ++ expected
  | .unknownField name known => "unknown field `" ++ name ++ "`, expected " ++ knownFields known
  | .repeatedField name => "duplicate field `" ++ name ++ "`"
  | .missingField name => "missing field `" ++ name ++ "`"
  | .wideInteger i => "integer out of range: " ++ toString i

def ShapeError.message (e : ShapeError) : String :=
  match e.place with
  | .root => e.fault.message
  | place => place.text ++ ": " ++ e.fault.message

namespace Shape

abbrev Read (α : Type) := Except ShapeError α

abbrev NodeEntry := String × Node × Node

def wrong {α : Type} (here : Place) (found : Node) (expected : String) : Read α :=
  .error ⟨here, .wrongKind found expected⟩

def text (here : Place) (expected : String) : Node → Read String
  | .scalar text _ => .ok text
  | x => wrong here x expected

def flag (here : Place) : Node → Read Bool
  | .scalar text plain => match Node.meaning text plain with
    | .bool b => .ok b
    | _ => wrong here (.scalar text plain) "a boolean"
  | x => wrong here x "a boolean"

def optional {α : Type} (read : Node → Read α) (x : Node) : Read (Option α) :=
  if x.isNull then .ok none else (read x).map some

def sequence {α : Type} (read : Place → Node → Read α) (here : Place) : Node → Read (List α)
  | .sequence items => items.zipIdx.mapM fun (x, i) => read (.item here i) x
  | x => if x.isEmpty then .ok [] else wrong here x "a sequence"

mutual

/-- A JSON value. Of a repeated key the last value counts; what JSON has no number for is null. -/
def json (here : Place) : Node → Read Json
  | .scalar text plain => match Node.meaning text plain with
    | .null | .infinite _ | .nan => .ok .null
    | .bool b => .ok (.bool b)
    | .int i => .ok (.num (.int i))
    | .wide i => .error ⟨here, .wideInteger i⟩
    | .float x => .ok (.num (.float x))
    | .str s => .ok (.str s)
  | .sequence items => do .ok (.arr (← jsonItems here 0 items))
  | .mapping entries => do .ok (.obj (← jsonEntries here "a string key" [] entries))

def jsonItems (here : Place) : Nat → List Node → Read (List Json)
  | _, [] => .ok []
  | i, x :: more => do
    let v ← json (.item here i) x
    let vs ← jsonItems here (i + 1) more
    .ok (v :: vs)

def jsonEntries (here : Place) (expected : String) (done : Entries) :
    List NodeEntry → Read Entries
  | [] => .ok done
  | (label, key, x) :: more => do
    let k ← text here expected key
    let v ← json (.field here label) x
    jsonEntries here "a string" (Json.insertEntry k v done) more

end

def fieldName (here : Place) (known seen : List String) (key : Node) : Read String := do
  let name ← text here "field identifier" key
  if name ∉ known then .error ⟨here, .unknownField name known⟩
  else if name ∈ seen then .error ⟨here, .repeatedField name⟩
  else .ok name

def fields {α : Type} (here : Place) (known : List String)
    (read : String → Place → Node → α → Read α) (seen : List String) (done : α) :
    List NodeEntry → Read (List String × α)
  | [] => .ok (seen, done)
  | (label, key, x) :: more => do
    let name ← fieldName here known seen key
    let done ← read name (.field here label) x done
    fields here known read (name :: seen) done more

def require (here : Place) (names seen : List String) : Read Unit :=
  match names.find? (· ∉ seen) with
  | some name => .error ⟨here, .missingField name⟩
  | none => .ok ()

def record {α : Type} (name : String) (known required : List String)
    (read : String → Place → Node → α → Read α) (start : α) (here : Place) (x : Node) :
    Read α := do
  let entries ← match x with
    | .mapping entries => .ok entries
    | x => if x.isEmpty then .ok [] else wrong here x ("struct " ++ name)
  let (seen, done) ← fields here known read [] start entries
  require here required seen
  .ok done

def slotFields : List String := ["name", "schema", "type", "args"]

mutual

def slot (here : Place) : Node → Read DeclaredSlot
  | .mapping entries => slotEntries here [] ⟨none, none, none, none⟩ entries
  | x => if x.isEmpty then .ok ⟨none, none, none, none⟩ else wrong here x "struct SlotDecl"

def slotEntries (here : Place) (seen : List String) (done : DeclaredSlot) :
    List NodeEntry → Read DeclaredSlot
  | [] => .ok done
  | (label, key, x) :: more => do
    let name ← fieldName here slotFields seen key
    let place := Place.field here label
    let done ← match name with
      | "name" => do .ok { done with name := ← optional (text place "a string") x }
      | "schema" => do .ok { done with schema := ← optional (json place) x }
      | "type" => do .ok { done with type := ← optional (text place "a string") x }
      | _ => do .ok { done with args := ← optionalSlots place x }
    slotEntries here (name :: seen) done more

def optionalSlots (here : Place) : Node → Read (Option (List DeclaredSlot))
  | .sequence items => do .ok (some (← slotItems here 0 items))
  | x => if x.isNull then .ok none else wrong here x "a sequence"

def slotItems (here : Place) : Nat → List Node → Read (List DeclaredSlot)
  | _, [] => .ok []
  | i, x :: more => do
    let s ← slot (.item here i) x
    let ss ← slotItems here (i + 1) more
    .ok (s :: ss)

end

def arity : Place → Node → Read DeclaredArity :=
  record "ArityDecl" ["args", "rest"] []
    (fun name here x done => match name with
      | "args" => do .ok { done with args := ← sequence slot here x }
      | _ => do .ok { done with rest := ← optional (slot here) x })
    ⟨[], none⟩

def function : Place → Node → Read DeclaredFunction :=
  record "FunctionDecl" ["name", "output", "never_validate", "always_validate", "arities"]
    ["name", "arities"]
    (fun name here x done => match name with
      | "name" => do .ok { done with name := ← text here "a string" x }
      | "output" => do .ok { done with output := ← optional (json here) x }
      | "never_validate" => do .ok { done with tags := ⟨← flag here x, done.tags.always⟩ }
      | "always_validate" => do .ok { done with tags := ⟨done.tags.never, ← flag here x⟩ }
      | _ => do .ok { done with arities := ← sequence arity here x })
    ⟨"", none, ⟨false, false⟩, []⟩

def types (here : Place) : Node → Read Entries
  | .mapping entries => jsonEntries here "a string" [] entries
  | x => if x.isEmpty then .ok [] else wrong here x "a map"

def declarations : Node → Read Declarations :=
  record "DeclarationFile" ["types", "functions"] ["functions"]
    (fun name here x done => match name with
      | "types" => do .ok { done with types := ← types here x }
      | _ => do .ok { done with functions := ← sequence function here x })
    ⟨[], []⟩ .root

end Shape

inductive ReadFault where
  | notYaml
  | shape (cause : ShapeError)
  deriving Repr

/-- The declarations that a text holds. A wrong shape is reported only for a document whose values
can be held. -/
def Declarations.read (text : String) : Except ReadFault Declarations :=
  match Node.read? text with
  | none => .error .notYaml
  | some x => match Shape.declarations x with
    | .ok d => .ok d
    | .error e => .error (if x.isValue then .shape e else .notYaml)

end CallContract
