import CallContract.Function.Compile

/-!
# Sessions

A session is a process that registers types, compiles functions and calls them.
The toggle, the configuration and the types change between steps; a compiled
function keeps what it was compiled with, reads only the toggle, and builds its
explainers as calls need them. Types go to the session's own registry or, if it
has none, to the common one.
-/

set_option autoImplicit false

namespace CallContract

structure Session (σ : Type) where
  enabled : Bool
  config : Config
  common : Registry
  own : Option Registry
  functions : List (String × CompiledFunction σ)
  arities : List (String × CompiledArity σ)
  state : σ

namespace Session

variable {σ : Type}

def start (config : Config) (own : Option Registry) (state : σ) : Session σ :=
  ⟨true, config, .empty, own, [], [], state⟩

def types (s : Session σ) : Registry := s.own.getD s.common

def changeTypes (s : Session σ) (f : Registry → Registry) : Session σ :=
  match s.own with
  | some own => { s with own := some (f own) }
  | none => { s with common := f s.common }

inductive Step (σ : Type) where
  | register (type : TypeToken) (schema : Schema)
  | unregister (type : TypeToken)
  | configure (config : Config)
  /-- With `plain`, the default configuration and the common types are used. -/
  | compile (id : String) (definition : FunctionDef σ) (plain : Bool)
  | describe (id : String)
  | call (id : String) (args : List Json)
  | invoke (id : String) (index : Nat) (args : List Json)
  | input (id : String) (arity : Nat)
  | toggle (enabled : Bool)
  | isEnabled
  | compileArity (id : String) (body : ArityBody σ) (output : Schema) (decision : Decision)
  | invokeArity (id : String) (args : List Json)

inductive Answer (σ : Type) where
  | bound (schema : Option Schema)
  | configured (config : Config)
  | function (f : CompiledFunction σ)
  | rejected (cause : DefinitionError)
  | ran (result : Except CallError Json) (trace : List Event)
  | input (schema : Option Schema)
  | previous (enabled : Bool)
  | enabled (enabled : Bool)
  | arity (a : CompiledArity σ) (body : ArityBody σ)
  | unknown

def put {α : Type} (id : String) (x : α) (xs : List (String × α)) : List (String × α) :=
  (id, x) :: xs.filter (·.1 ≠ id)

def ranFunction (s : Session σ) (id : String) (r : Run σ × CompiledFunction σ) :
    Answer σ × Session σ :=
  (.ran r.1.result r.1.trace, { s with state := r.1.state, functions := put id r.2 s.functions })

def ranArity (s : Session σ) (id : String) (r : Run σ × CompiledArity σ) :
    Answer σ × Session σ :=
  (.ran r.1.result r.1.trace, { s with state := r.1.state, arities := put id r.2 s.arities })

def step (s : Session σ) : Step σ → Answer σ × Session σ
  | .register t schema => (.bound (s.types.lookup t), s.changeTypes (·.insert t schema))
  | .unregister t => (.bound (s.types.lookup t), s.changeTypes (·.erase t))
  | .configure config => (.configured config, { s with config := config })
  | .compile id d plain =>
    let compiled := if plain then d.compile .default s.common else d.compile s.config s.types
    match compiled with
    | .ok f => (.function f, { s with functions := put id f s.functions })
    | .error e => (.rejected e, s)
  | .describe id => match s.functions.lookup id with
    | some f => (.function f, s)
    | none => (.unknown, s)
  | .call id args => match s.functions.lookup id with
    | some f => s.ranFunction id (f.call s.enabled args s.state)
    | none => (.unknown, s)
  | .invoke id index args =>
    match (s.functions.lookup id).bind (·.invoke index s.enabled args s.state) with
    | some r => s.ranFunction id r
    | none => (.unknown, s)
  | .input id arity => match s.functions.lookup id with
    | some f => (.input (f.signature.input arity), s)
    | none => (.unknown, s)
  | .toggle enabled => (.previous s.enabled, { s with enabled := enabled })
  | .isEnabled => (.enabled s.enabled, s)
  | .compileArity id b output decision => match b.compile output decision s.config s.types with
    | .ok a => (.arity a b, { s with arities := put id a s.arities })
    | .error e => (.rejected (.form e), s)
  | .invokeArity id args => match s.arities.lookup id with
    | some a => s.ranArity id (a.invoke s.enabled args s.state)
    | none => (.unknown, s)

def run (s : Session σ) : List (Step σ) → List (Answer σ) × Session σ
  | [] => ([], s)
  | st :: rest =>
    let (answer, s) := s.step st
    let (answers, s) := run s rest
    (answer :: answers, s)

end Session

end CallContract
