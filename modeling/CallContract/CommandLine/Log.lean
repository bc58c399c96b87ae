import CallContract.Declaration.Compile
import CallContract.Text.Quoted

/-!
# The log

What the program notes while it works. An entry is shown if its level is not
above the level that is asked for. Characters of a message that can steer a
terminal are written as their code; fields are written as they are.
-/

set_option autoImplicit false

namespace CallContract.CommandLine

inductive Level where
  | error
  | warning
  | info
  | debug
  deriving DecidableEq, Repr

namespace Level

def rank : Level → Nat
  | .error => 0
  | .warning => 1
  | .info => 2
  | .debug => 3

def name : Level → String
  | .error => "ERROR"
  | .warning => "WARN"
  | .info => "INFO"
  | .debug => "DEBUG"

def ofVerbosity : Nat → Level
  | 0 => .warning
  | 1 => .info
  | _ => .debug

end Level

structure LogEntry where
  level : Level
  message : String
  fields : List (String × String)
  deriving DecidableEq, Repr

namespace LogEntry

def steering : List Nat := [0x07, 0x08, 0x0C, 0x1B, 0x7F]

def shown (c : Char) : List Char :=
  if steering.contains c.toNat then
    '\\' :: 'x' :: (if c.toNat < 16 then ['0'] else []) ++ Nat.toDigits 16 c.toNat
  else if 0x80 ≤ c.toNat && c.toNat ≤ 0x9F then Quoted.codePoint c
  else [c]

def text (e : LogEntry) : String :=
  e.level.name ++ " " ++ String.ofList (e.message.toList.flatMap shown)
    ++ String.join (e.fields.map fun (name, value) => " " ++ name ++ "=" ++ value)

def error (message : String) : LogEntry := ⟨.error, message, []⟩

def rejected (name : String) (cause : Rejection) : LogEntry :=
  ⟨.warning, "definition rejected: " ++ cause.message, [("function", name)]⟩

def started : LogEntry := ⟨.debug, "schemafn CLI starting", []⟩

def inspecting (config : Config) (file : String) : LogEntry :=
  ⟨.debug, "inspecting declarations", [("config", config.text), ("file", file)]⟩

def registering (type : String) : LogEntry :=
  ⟨.debug, "registering type schema", [("token", type)]⟩

def compiledArity {σ : Type} (a : CompiledArity σ) (d : Decision) : LogEntry :=
  ⟨.debug, "compiled arity",
    [("arity", toString a.arity), ("variadic", toString a.isVariadic), ("decision", d.name)]⟩

def compiledFunction {σ : Type} (f : CompiledFunction σ) : LogEntry :=
  let arities := ", ".intercalate (f.signature.arities.map toString)
  ⟨.debug, "compiled function",
    [("function", f.name), ("decision", f.decision.name), ("arities", "[" ++ arities ++ "]")]⟩

end LogEntry

def logOfDef {σ : Type} (d : FunctionDef σ) (config : Config) (types : Registry) : List LogEntry :=
  match Decision.decide d.tags config, Schema.check d.output with
  | .ok decision, .ok _ =>
    (d.attempted decision config types d.arities).map (LogEntry.compiledArity · decision)
      ++ (match d.compile config types with
        | .ok f => [.compiledFunction f]
        | .error _ => [])
  | _, _ => []

def logOfFunction (f : DeclaredFunction) (tags : Tags) (config : Config) (types : Registry) :
    List LogEntry :=
  match (f.toDef .null : Except ArityError (FunctionDef Unit)) with
  | .ok d => logOfDef { d with tags } config types
  | .error _ => []

def logOfTypes (d : Declarations) : List LogEntry :=
  d.types.map fun (name, _) => .registering name

def logOfReports (d : Declarations) (config : Config) : List DeclaredFunction → List LogEntry
  | [] => []
  | f :: more => logOfFunction f f.tags config d.registry ++ match d.report config f with
    | .error _ => []
    | .ok ⟨name, .error cause⟩ => .rejected name cause :: logOfReports d config more
    | .ok ⟨_, .ok _⟩ => logOfReports d config more

def logOfInspection (d : Declarations) (config : Config) : List LogEntry :=
  logOfTypes d ++ logOfReports d config d.functions

def logOfCheck (d : Declarations) (function : String) : List LogEntry :=
  match d.function? function with
  | none => []
  | some f => logOfTypes d ++ logOfFunction f ⟨false, true⟩ .enabled d.registry

end CallContract.CommandLine
