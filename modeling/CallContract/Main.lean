import CallContract.CommandLine.Run

/-!
# The program

Reads arguments, environment and files, and writes what the run gives.
-/

set_option autoImplicit false

namespace CallContract.CommandLine

def faultOf : IO.Error → FileFault
  | .noFileOrDirectory _ _ _ => .missing
  | .inappropriateType _ 21 _ => .directory
  | e => .other (toString e)

def readBytes (path : String) : IO (Except FileFault ByteArray) := do
  try
    return .ok (← IO.FS.readBinFile path)
  catch e =>
    return .error (faultOf e)

def fileOf : Request → Option String
  | .run _ (.inspect file _) => some file
  | .run _ (.check file _ _ _) => some file
  | _ => none

def execute (words : List String) : IO UInt32 := do
  let content : Except FileFault ByteArray ← match fileOf (.ofWords words) with
    | some path => readBytes path
    | none => pure (.error .missing)
  let values ← Config.variableNames.mapM fun name => do return (name, ← IO.getEnv name)
  let outcome := run (fun _ => content) (fun name => (values.lookup name).join) words
  IO.print outcome.output
  for entry in outcome.log do
    IO.eprintln entry.text
  return outcome.exitCode.toUInt32

end CallContract.CommandLine

def main (words : List String) : IO UInt32 :=
  CallContract.CommandLine.execute words
