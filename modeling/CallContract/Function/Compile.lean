import CallContract.Function.Arity
import CallContract.Function.Signature

/-!
# Compiled functions

Compiling decides on validation, checks the output schema, compiles the arities
in the order of their declaration and checks their inputs, and composes the
signature. The first thing that is wrong is the error. A call goes to the first
arity that takes so many arguments, and leaves the function with what that arity
has built.
-/

set_option autoImplicit false

namespace CallContract

structure FunctionDef (σ : Type) where
  name : String
  output : Schema
  tags : Tags
  arities : List (ArityBody σ)

structure CompiledFunction (σ : Type) where
  name : String
  decision : Decision
  signature : Signature
  /-- Ascending by the number of regular arguments. -/
  arities : List (CompiledArity σ)

namespace FunctionDef

variable {σ : Type}

def build (d : FunctionDef σ) (decision : Decision) (config : Config) (types : Registry)
    (b : ArityBody σ) : Except DefinitionError (CompiledArity σ) :=
  (b.compile d.output decision config types).mapError .form

def allow (d : FunctionDef σ) (a : CompiledArity σ) : Except DefinitionError Unit :=
  if 1 < d.arities.length && a.isVariadic then .error (.variadicAmong d.arities.length)
  else (Schema.check a.input).mapError .schema

def compileArities (d : FunctionDef σ) (decision : Decision) (config : Config)
    (types : Registry) : List (ArityBody σ) → Except DefinitionError (List (CompiledArity σ))
  | [] => .ok []
  | b :: rest => do
    let a ← d.build decision config types b
    d.allow a
    let more ← d.compileArities decision config types rest
    .ok (a :: more)

def compile (d : FunctionDef σ) (config : Config) (types : Registry) :
    Except DefinitionError (CompiledFunction σ) := do
  let decision ← Decision.decide d.tags config
  if d.arities.isEmpty then .error .noArities
  else
    (Schema.check d.output).mapError .schema
    let arities ← d.compileArities decision config types d.arities
    let signature ← Signature.compose d.output (arities.map (·.input))
    .ok ⟨d.name, decision, signature, arities.mergeSort fun a b => a.arity ≤ b.arity⟩

/-- The arities that get compiled before a list is through or an error stops it; one that is
compiled and then not allowed is the last. -/
def attempted (d : FunctionDef σ) (decision : Decision) (config : Config) (types : Registry) :
    List (ArityBody σ) → List (CompiledArity σ)
  | [] => []
  | b :: rest =>
    match d.build decision config types b with
    | .error _ => []
    | .ok a => match d.allow a with
      | .error _ => [a]
      | .ok _ => a :: d.attempted decision config types rest

end FunctionDef

namespace CompiledFunction

variable {σ : Type}

def position (f : CompiledFunction σ) (count : Nat) : Option Nat :=
  f.arities.findIdx? (·.takes count)

def invoke (f : CompiledFunction σ) (index : Nat) (enabled : Bool) (args : List Json)
    (state : σ) : Option (Run σ × CompiledFunction σ) :=
  f.arities[index]?.map fun a =>
    let r := a.invoke enabled args state
    (r.1, { f with arities := f.arities.set index r.2 })

def call (f : CompiledFunction σ) (enabled : Bool) (args : List Json) (state : σ) :
    Run σ × CompiledFunction σ :=
  ((f.position args.length).bind (f.invoke · enabled args state)).getD
    (⟨.error (.arityMismatch f.name args.length), [], state⟩, f)

end CompiledFunction

end CallContract
