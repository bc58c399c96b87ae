import CallContract.Declaration.Basic

/-!
# Compiling declared functions

A declared function is compiled with the types of its file and no others.
`inspect` compiles every function of a file by itself and reports what came of
it. `checkCall` replays one call: it compiles the function with validation
always on and with a body that gives the claimed result, and calls it. Either
job ends without an answer if a sum of counts overflows on the way.
-/

set_option autoImplicit false

namespace CallContract

inductive Rejection where
  | arity (cause : ArityError)
  | definition (cause : DefinitionError)
  deriving DecidableEq, Repr

def Rejection.message : Rejection → String
  | .arity cause => cause.message
  | .definition cause => cause.message

/-- The one cause that is not reported, as the program stops at it. -/
def Rejection.overflow : Rejection := .definition (.form (.schema .overflow))

def DeclaredFunction.compile (f : DeclaredFunction) (result : Json) (tags : Tags)
    (config : Config) (types : Registry) : Except Rejection (CompiledFunction Unit) := do
  let d ← (f.toDef result).mapError .arity
  ({ d with tags }.compile config types).mapError .definition

structure Overflow where
  deriving DecidableEq, Repr

def DeclaredFunction.attempt (f : DeclaredFunction) (result : Json) (tags : Tags)
    (config : Config) (types : Registry) :
    Except Overflow (Except Rejection (CompiledFunction Unit)) :=
  match f.compile result tags config types with
  | .ok c => .ok (.ok c)
  | .error cause => if cause = .overflow then .error ⟨⟩ else .ok (.error cause)

structure Contract where
  decision : Decision
  signature : Signature
  deriving DecidableEq, Repr

structure Report where
  name : String
  outcome : Except Rejection Contract

def Report.failed (r : Report) : Bool :=
  match r.outcome with
  | .ok _ => false
  | .error _ => true

inductive CheckError where
  | unknownFunction (name : String)
  | rejected (function : String) (cause : Rejection)
  | argumentsNotList (arguments : Json)
  deriving DecidableEq, Repr

namespace CheckError

def summary (path : String) : CheckError → String
  | .unknownFunction name => "no function named '" ++ name ++ "' in " ++ path
  | .rejected _ (.arity cause) => cause.place
  | .rejected function (.definition _) => "cannot compile '" ++ function ++ "'"
  | .argumentsNotList arguments => "--args must be a JSON array, got " ++ arguments.compact

def message (path : String) : CheckError → String
  | .rejected _ (.arity cause) => cause.message
  | .rejected function (.definition cause) =>
    "cannot compile '" ++ function ++ "': " ++ cause.message
  | e => e.summary path

end CheckError

def CompiledFunction.replay (c : CompiledFunction Unit) (enabled : Bool) :
    Json → Except CheckError (Option CallError)
  | .arr args => match (c.call enabled args ()).1.result with
    | .ok _ => .ok none
    | .error e => .ok (some e)
  | arguments => .error (.argumentsNotList arguments)

namespace Declarations

def report (d : Declarations) (config : Config) (f : DeclaredFunction) :
    Except Overflow Report := do
  let outcome ← f.attempt .null f.tags config d.registry
  .ok ⟨f.name, outcome.map fun c => ⟨c.decision, c.signature⟩⟩

def inspect (d : Declarations) (config : Config) : Except Overflow (List Report) :=
  d.functions.mapM (d.report config)

/-- Replays a call with these arguments, of which this result is claimed. -/
def checkCall (d : Declarations) (enabled : Bool) (function : String) (arguments result : Json) :
    Except Overflow (Except CheckError (Option CallError)) :=
  match d.function? function with
  | none => .ok (.error (.unknownFunction function))
  | some f => do
    match ← f.attempt result ⟨false, true⟩ .enabled d.registry with
    | .error cause => .ok (.error (.rejected function cause))
    | .ok c => .ok (c.replay enabled arguments)

end Declarations

end CallContract
