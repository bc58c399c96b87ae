/-!
# Command-line arguments

The program has two subcommands, each with one file. `--version` is an option of
the program itself and `--verbose` one of the program and of the subcommands.
An option with a value takes it after an equals sign or as the next word, which
then may not look like an option. After `--` every word is a file. Whatever else
is wrong, given twice or left out makes the arguments invalid.
-/

set_option autoImplicit false

namespace CallContract.CommandLine

inductive Command where
  | inspect (file : String) (json : Bool)
  | check (file function arguments : String) (result : Option String)
  deriving DecidableEq, Repr

inductive Request where
  | version
  | run (verbosity : Nat) (command : Command)
  | invalid
  deriving DecidableEq, Repr

inductive Verb where
  | inspect
  | check
  deriving DecidableEq, Repr

namespace Verb

def ofName? : String → Option Verb
  | "inspect" => some .inspect
  | "check" => some .check
  | _ => none

def flags : Verb → List String
  | .inspect => ["json"]
  | .check => []

def options : Verb → List String
  | .inspect => []
  | .check => ["function", "args", "result"]

end Verb

inductive Word where
  | plain (text : String)
  | long (name : String) (inline : Option String)
  | short (letters : List Char)
  | stop
  deriving DecidableEq, Repr

def splitInline (cs : List Char) : String × Option String :=
  (String.ofList (cs.takeWhile (· ≠ '=')), match cs.dropWhile (· ≠ '=') with
    | [] => none
    | _ :: value => some (String.ofList value))

def Word.ofText (text : String) : Word :=
  match text.toList with
  | ['-', '-'] => .stop
  | '-' :: '-' :: cs =>
    let (name, inline) := splitInline cs
    .long name inline
  | '-' :: c :: cs => .short (c :: cs)
  | _ => .plain text

structure Given where
  verbosity : Nat
  files : List String
  flags : List String
  values : List (String × String)

namespace Given

def addFile (g : Given) (file : String) : Given := { g with files := g.files ++ [file] }

def addFlag? (g : Given) (name : String) : Option Given :=
  if name ∈ g.flags then none else some { g with flags := name :: g.flags }

def addValue? (g : Given) (name value : String) : Option Given :=
  if (g.values.lookup name).isSome then none
  else some { g with values := (name, value) :: g.values }

def louder (g : Given) (n : Nat) : Given := { g with verbosity := g.verbosity + n }

end Given

def readWords (verb : Verb) (g : Given) : List String → Option Given
  | [] => some g
  | word :: more =>
    match Word.ofText word with
    | .plain file => readWords verb (g.addFile file) more
    | .stop => some (more.foldl Given.addFile g)
    | .short letters =>
      if letters.all (· = 'v') then readWords verb (g.louder letters.length) more else none
    | .long name inline =>
      if name = "verbose" && inline.isNone then readWords verb (g.louder 1) more
      else if name ∈ verb.flags && inline.isNone then do
        let g ← g.addFlag? name
        readWords verb g more
      else if name ∈ verb.options then
        match inline, more with
        | some value, more => do
          let g ← g.addValue? name value
          readWords verb g more
        | none, next :: more =>
          match Word.ofText next with
          | .plain value => do
            let g ← g.addValue? name value
            readWords verb g more
          | _ => none
        | none, [] => none
      else none

def Given.command? (g : Given) (verb : Verb) : Option Command :=
  match verb, g.files with
  | _, [""] => none
  | .inspect, [file] => some (.inspect file ("json" ∈ g.flags))
  | .check, [file] => do
    let function ← g.values.lookup "function"
    let arguments ← g.values.lookup "args"
    some (.check file function arguments (g.values.lookup "result"))
  | _, _ => none

/-- The words of a subcommand. If they ask for verbosity, that counts and not what was asked before
the subcommand. -/
def readCommand (verbosity : Nat) (verb : Verb) (words : List String) : Request :=
  match readWords verb ⟨0, [], [], []⟩ words with
  | none => .invalid
  | some g => match g.command? verb with
    | none => .invalid
    | some c => .run (if g.verbosity = 0 then verbosity else g.verbosity) c

/-- Letters of one word before the subcommand: how many times verbosity is asked for, unless a
letter is unknown; at a request for the version the rest does not matter. -/
def readLetters : Nat → List Char → Request ⊕ Nat
  | n, [] => .inr n
  | n, 'v' :: more => readLetters (n + 1) more
  | _, 'V' :: _ => .inl .version
  | _, _ :: _ => .inl .invalid

def readFrom (verbosity : Nat) : List String → Request
  | [] => .invalid
  | word :: more =>
    match Word.ofText word with
    | .plain name => match Verb.ofName? name with
      | some verb => readCommand verbosity verb more
      | none => .invalid
    | .long "verbose" none => readFrom (verbosity + 1) more
    | .long "version" none => .version
    | .short letters => match readLetters verbosity letters with
      | .inl r => r
      | .inr n => readFrom n more
    | _ => .invalid

def Request.ofWords (words : List String) : Request := readFrom 0 words

end CallContract.CommandLine
