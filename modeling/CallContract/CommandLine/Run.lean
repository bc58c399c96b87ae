import CallContract.CommandLine.Arguments
import CallContract.CommandLine.Log
import CallContract.Declaration.File
import CallContract.Json.Parser
import CallContract.Json.Printer

/-!
# Running the program

A run takes what the world holds, files and environment variables, and gives an
exit code, the standard output and the log. The exit code is 0 if all is well, 1
if a function does not compile or a call does not conform, 2 if the job cannot
be done, and 101 if an overflow stops the program.
-/

set_option autoImplicit false

namespace CallContract.CommandLine

structure Outcome where
  exitCode : Nat
  output : String
  log : List LogEntry
  deriving DecidableEq, Repr

namespace Outcome

def failure (message : String) (log : List LogEntry) : Outcome :=
  ⟨2, "", log ++ [.error message]⟩

def stopped (log : List LogEntry) : Outcome := ⟨101, "", log⟩

def showing (level : Level) (o : Outcome) : Outcome :=
  { o with log := o.log.filter (·.level.rank ≤ level.rank) }

end Outcome

def versionText : String := "schemafn 0.1.0\n"

def reportText (r : Report) : String :=
  match r.outcome with
  | .error cause => r.name ++ " FAILED: " ++ cause.message ++ "\n"
  | .ok c =>
    r.name ++ " (validation: " ++ c.decision.name ++ ")\n"
      ++ "  output: " ++ c.signature.output.compact ++ "\n"
      ++ String.join (c.signature.entries.map fun (n, input) =>
        "  arity " ++ toString n ++ ": " ++ input.compact ++ "\n")

def reportJson (r : Report) : Json :=
  match r.outcome with
  | .error cause => Json.ofEntries [("name", .str r.name), ("error", .str cause.message)]
  | .ok c => Json.ofEntries
      [("name", .str r.name), ("decision", .str c.decision.name), ("output", c.signature.output),
        ("arities", .arr (c.signature.entries.map fun (n, input) =>
          Json.ofEntries [("arity", .natural n), ("input", input)]))]

def failedCount (reports : List Report) : Nat := reports.countP Report.failed

def inspectionText (reports : List Report) : String :=
  String.join (reports.map reportText) ++ "\n" ++ toString reports.length ++ " function(s), "
    ++ toString (failedCount reports) ++ " failed\n"

def inspectionJson (reports : List Report) : String :=
  (Json.arr (reports.map reportJson)).pretty ++ "\n"

def runInspect (files : Files) (config : Config) (file : String) (json : Bool) : Outcome :=
  let log := [.started, .inspecting config file]
  match Declarations.load files file with
  | .error e => .failure e.message log
  | .ok d =>
    let log := log ++ logOfInspection d config
    match d.inspect config with
    | .error _ => .stopped log
    | .ok reports => ⟨if failedCount reports = 0 then 0 else 1,
        if json then inspectionJson reports else inspectionText reports, log⟩

def checkText (function : String) : Option CallError → String
  | none => "OK: call to '" ++ function ++ "' conforms\n"
  | some e => "FAIL: " ++ e.message ++ "\n"

def runCheck (files : Files) (file function arguments : String) (result : Option String) :
    Outcome :=
  match Json.parse arguments, (result.map Json.parse).getD (.ok .null) with
  | .error e, _ => .failure ("--args is not valid JSON: " ++ e.message) [.started]
  | .ok _, .error e => .failure ("--result is not valid JSON: " ++ e.message) [.started]
  | .ok arguments, .ok result =>
    match Declarations.load files file with
    | .error e => .failure e.message [.started]
    | .ok d =>
      let log := .started :: logOfCheck d function
      match d.checkCall true function arguments result with
      | .error _ => .stopped log
      | .ok (.error e) => .failure (e.message file) log
      | .ok (.ok broken) => ⟨if broken.isNone then 0 else 1, checkText function broken, log⟩

def run (files : Files) (lookup : String → Option String) (words : List String) : Outcome :=
  match Request.ofWords words with
  | .invalid => ⟨2, "", []⟩
  | .version => ⟨0, versionText, []⟩
  | .run verbosity command =>
    (match command with
      | .inspect file json => runInspect files (.ofLookup lookup) file json
      | .check file function arguments result => runCheck files file function arguments result
      ).showing (.ofVerbosity verbosity)

end CallContract.CommandLine
