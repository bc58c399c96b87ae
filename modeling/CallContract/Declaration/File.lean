import CallContract.Declaration.Shape

/-!
# Declaration files

Loading a file takes its bytes, or the reason why it has none, and gives the
declarations in it.
-/

set_option autoImplicit false

namespace CallContract

inductive FileFault where
  | missing
  | directory
  | notText
  | other (message : String)
  deriving DecidableEq, Repr

def FileFault.message : FileFault → String
  | .missing => "No such file or directory (os error 2)"
  | .directory => "Is a directory (os error 21)"
  | .notText => "stream did not contain valid UTF-8"
  | .other message => message

inductive LoadError where
  | unreadable (path : String) (cause : FileFault)
  | invalid (path : String) (cause : ReadFault)
  deriving Repr

namespace LoadError

def summary : LoadError → String
  | .unreadable path _ => "cannot read " ++ path
  | .invalid path _ => "invalid declaration file " ++ path

def message (e : LoadError) : String :=
  match e with
  | .unreadable _ cause => e.summary ++ ": " ++ cause.message
  | .invalid _ .notYaml => e.summary ++ " (not YAML)"
  | .invalid _ (.shape cause) => e.summary ++ ": " ++ cause.message

end LoadError

abbrev Files := String → Except FileFault ByteArray

def Files.text (files : Files) (path : String) : Except FileFault String := do
  match String.fromUTF8? (← files path) with
  | some text => .ok text
  | none => .error .notText

def Declarations.load (files : Files) (path : String) : Except LoadError Declarations := do
  let text ← (files.text path).mapError (.unreadable path)
  (Declarations.read text).mapError (.invalid path)

end CallContract
