import CallContract.Text.Numeral
import CallContract.Yaml.Cursor

/-!
# Block scalars

A literal or folded scalar is the lines below its header that are indented at
least as far as its first line that is not blank, or as the header says. The
header also says what becomes of the line breaks at the end.
-/

set_option autoImplicit false

namespace CallContract.Yaml

inductive Chomping where
  | strip
  | clip
  | keep
  deriving DecidableEq, Repr

def chomping? : Char → Option Chomping
  | '-' => some .strip
  | '+' => some .keep
  | _ => none

def indentDigit? (c : Char) : Option Nat := (Numeral.digit? 10 c).filter (0 < ·)

structure BlockHeader where
  chomping : Chomping
  indent : Option Nat

def readBlockHeader (c : Cursor) : BlockHeader × Cursor :=
  match c.head?.bind chomping? with
  | some m => match c.second?.bind indentDigit? with
    | some n => (⟨m, some n⟩, c.skip 2)
    | none => (⟨m, none⟩, c.skip 1)
  | none => match c.head?.bind indentDigit? with
    | some n => match c.second?.bind chomping? with
      | some m => (⟨m, some n⟩, c.skip 2)
      | none => (⟨.clip, some n⟩, c.skip 1)
    | none => (⟨.clip, none⟩, c)

def afterHeader? (c : Cursor) : Option Cursor :=
  let c := c.skipWhile isBlank
  let c := if c.head? = some '#' then c.skipLine else c
  match c.head? with
  | none => some c
  | some x => if isBreak x then some c.nextLine else none

/-- Passes blank lines and the indentation of the line after them; gives the breaks and the widest
indentation met. A tab in the indentation is refused. -/
def readBreaks (indent : Option Nat) :
    Nat → Nat → List Char → Cursor → Option (Nat × List Char × Cursor)
  | 0, _, _, _ => none
  | fuel + 1, widest, done, c =>
    let blanks := (c.rest.takeWhile (· = ' ')).length
    let c := c.skip (match indent with
      | some n => min blanks (n - c.column)
      | none => blanks)
    let widest := max widest c.column
    match c.head? with
    | none => some (widest, done, c)
    | some x =>
      if x = '\t' && indent.all (c.column < ·) then none
      else if isBreak x then readBreaks indent fuel widest (done ++ [breakText x]) c.nextLine
      else some (widest, done, c)

structure BlockState where
  done : List Char
  leading : List Char
  trailing : List Char
  indented : Bool

def BlockState.between (s : BlockState) (folded startsBlank : Bool) : List Char :=
  if folded && s.leading = ['\n'] && !s.indented && !startsBlank then
    if s.trailing.isEmpty then [' '] else s.trailing
  else s.leading ++ s.trailing

def readBlockLines (folded : Bool) (indent : Nat) :
    Nat → BlockState → Cursor → Option (BlockState × Cursor)
  | 0, _, _ => none
  | fuel + 1, s, c =>
    if c.column = indent && !c.rest.isEmpty then do
      let startsBlank := c.head?.any isBlank
      let line := c.rest.takeWhile fun x => !isBreak x
      let stop := c.skip line.length
      let leading := (stop.head?.map breakText).toList
      let (_, trailing, c) ← readBreaks (some indent) (stop.rest.length + 1) 0 [] stop.nextLine
      readBlockLines folded indent fuel
        ⟨s.done ++ s.between folded startsBlank ++ line, leading, trailing, startsBlank⟩ c
    else some (s, c)

def block? (folded : Bool) (margin : Nat) (c : Cursor) : Option (String × Cursor) := do
  let (header, c) := readBlockHeader (c.skip 1)
  let c ← afterHeader? c
  let wanted := header.indent.map fun n => (margin - 1) + n
  let (widest, trailing, c) ← readBreaks wanted (c.rest.length + 1) 0 [] c
  let indent := wanted.getD (max (max widest margin) 1)
  let (s, c) ← readBlockLines folded indent (c.rest.length + 1) ⟨[], [], trailing, false⟩ c
  let ending := match header.chomping with
    | .strip => []
    | .clip => s.leading
    | .keep => s.leading ++ s.trailing
  some (String.ofList (s.done ++ ending), c)

end CallContract.Yaml
