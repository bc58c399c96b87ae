import CallContract.Pattern.Reader

/-!
# The strict grammar and standard texts

`Reader.whole` reads a text by the strict grammar and measures how deep it is
nested. A text that it reads is brought to a standard form: control characters
asked for by a letter are written themselves, and digits, word characters and
blanks asked for by a letter are listed. A text that needs a look around or a
reference to a group stays as it is.
-/

set_option autoImplicit false

namespace CallContract.Pattern

def rowDepth : List Nat → Nat
  | [] => 0
  | [d] => d
  | ds => ds.foldl max 0 + 1

namespace Reader

inductive Opening where
  | flags (spaced : Option Bool)
  | group (spaced : Option Bool)

def isNameStart (c : Char) : Bool := c = '_' || Property.alphabetic.has c.toNat

def isAlphanumeric (c : Char) : Bool :=
  Property.alphabetic.has c.toNat || Category.numbers.contains (Category.ofCodePoint c.toNat)

def isNamePart (c : Char) : Bool := "_.[]".toList.contains c || isAlphanumeric c

def groupName : Reader Unit := do
  let cs ← rest
  let name := cs.takeWhile (· ≠ '>')
  match name, cs.dropWhile (· ≠ '>') with
  | c :: part, _ :: after =>
    let names := (← get).names
    if isNameStart c && part.all isNamePart && !names.contains (String.ofList name) then
      modify fun k => { k with rest := after, names := String.ofList name :: names }
    else invalid
  | _, _ => invalid

def areFlags (flags : List Char) : Bool :=
  flags.all ("imsUuRx-".toList.contains ·) && decide flags.Nodup && flags.getLast? ≠ some '-'

def spacedBy (flags : List Char) : Option Bool :=
  if flags.contains 'x' then some ((flags.takeWhile (· ≠ '-')).contains 'x') else none

def opening : Reader Opening := do
  match ← rest with
  | '?' :: '=' :: _ => throw .beyond
  | '?' :: '!' :: _ => throw .beyond
  | '?' :: '<' :: '=' :: _ => throw .beyond
  | '?' :: '<' :: '!' :: _ => throw .beyond
  | '?' :: 'P' :: '<' :: after =>
    setRest after
    groupName
    return .group none
  | '?' :: '<' :: after =>
    setRest after
    groupName
    return .group none
  | '?' :: after =>
    let isFlag := fun c : Char => c ≠ ':' && c ≠ ')'
    let flags := after.takeWhile isFlag
    if !areFlags flags then invalid
    match after.dropWhile isFlag with
    | ':' :: after =>
      setRest after
      return .group (spacedBy flags)
    | ')' :: after =>
      if flags.isEmpty then invalid
      setRest after
      return .flags (spacedBy flags)
    | _ => invalid
  | _ => return .group none

def setSpaced (spaced : Option Bool) : Reader Unit :=
  modify fun k => { k with spaced := spaced.getD k.spaced }

def digits : Nat → List Char → Reader (List Char)
  | 0, found => return found
  | fuel + 1, found => do
    match ← rest with
    | c :: _ =>
      if c.isDigit then
        step
        digits fuel (c :: found)
      else return found
    | [] => return found

def count? : Reader (Option Nat) := do
  setRest ((← rest).dropWhile isSpace)
  let found ← digits (← rest).length []
  setRest ((← rest).dropWhile isSpace)
  overSpace
  if found.isEmpty then return none
  match Numeral.natural? 10 found.reverse with
  | some n => if n < UInt32.size then return some n else invalid
  | none => invalid

def bounds : Reader Unit := do
  stepOn
  match ← count? with
  | none => invalid
  | some least =>
    if (← peek?) = some ',' then
      stepOn
      if (← peek?) ≠ some '\x7d' then
        match ← count? with
        | none => invalid
        | some most => if most < least then invalid
    if (← peek?) = some '\x7d' then step else invalid

def lazily : Reader Unit := do
  if (← peek?) = some '?' then advance 1

def repetition (sign : Char) : Reader Unit := do
  if sign = '\x7b' then bounds else advance 1
  lazily

def leaf : Reader Nat := do
  match ← rest with
  | '[' :: cs => return (← bracket (2 * cs.length + 4)).depth
  | '\\' :: _ =>
    if let .bell ← escape then modify fun k => { k with bell := true }
    return 0
  | _ =>
    advance 1
    return 0

mutual

def choice : Nat → List Nat → Reader Nat
  | 0, _ => invalid
  | fuel + 1, before => do
    let d ← sequence fuel []
    match ← rest with
    | '|' :: after =>
      setRest after
      choice fuel (d :: before)
    | _ => return rowDepth (d :: before)

def sequence : Nat → List (Option Nat) → Reader Nat
  | 0, _ => invalid
  | fuel + 1, items => do
    overSpace
    match ← rest with
    | [] => return rowDepth (items.map (·.getD 0))
    | c :: _ =>
      if c = '|' || c = ')' then return rowDepth (items.map (·.getD 0))
      else if c = '(' then sequence fuel ((← group fuel) :: items)
      else if "?*+\x7b".toList.contains c then
        match items with
        | some d :: items =>
          repetition c
          sequence fuel (some (d + 1) :: items)
        | _ => invalid
      else sequence fuel (some (← leaf) :: items)

def group : Nat → Reader (Option Nat)
  | 0 => invalid
  | fuel + 1 => do
    let spaced := (← get).spaced
    step
    match ← opening with
    | .flags change =>
      setSpaced change
      return none
    | .group change =>
      setSpaced change
      let d ← choice fuel []
      match ← rest with
      | ')' :: after =>
        set { ← get with rest := after, spaced := spaced }
        return some (d + 1)
      | _ => invalid

end

/-- The depth of a whole text. Every character is read at most two levels down, which bounds the
budget. -/
def whole (text : List Char) : Except Obstacle (Nat × Cursor) := do
  let (d, k) ← (choice (3 * text.length + 3) []).run ⟨text, false, [], false, []⟩
  if k.rest.isEmpty then return (d, k) else throw .invalid

end Reader

def depthLimit : Nat := 250

def spellOut (letter : Char) : List Char :=
  let blanks := [9, 10, 11, 12, 13, 32, 0xa0, 0x2003, 0x2029, 0xfeff].map Char.ofNat
  match letter with
  | 'd' => "[0-9]".toList
  | 'D' => "[^0-9]".toList
  | 'w' => "[A-Za-z0-9_]".toList
  | 'W' => "[^A-Za-z0-9_]".toList
  | 's' => '[' :: blanks ++ [']']
  | _ => '[' :: '^' :: blanks ++ [']']

def spellShorts (shorts : List Nat) : List Char → List Char
  | '\\' :: c :: rest =>
    if shorts.contains (rest.length + 2) then spellOut c ++ spellShorts shorts rest
    else '\\' :: spellShorts shorts (c :: rest)
  | c :: rest => c :: spellShorts shorts rest
  | [] => []

def controlOf (letter : Char) : Char := Char.ofNat (letter.toUpper.toNat - 64)

def writeControl (left : Nat) (text : List Char) : List Char :=
  let before := text.take (text.length - left)
  match text.drop (text.length - left) with
  | _ :: _ :: letter :: after => before ++ controlOf letter :: after
  | _ => text

/-- The standard form of a text. Each turn but the last removes an escape. -/
def standardWithin : Nat → List Char → Option (List Char)
  | 0, _ => none
  | fuel + 1, text =>
    match Reader.whole text with
    | .ok (depth, k) =>
      if k.bell || depthLimit < depth then none else some (spellShorts k.shorts text)
    | .error .beyond => some text
    | .error (.control left) => standardWithin fuel (writeControl left text)
    | .error .invalid => none

def standard? (text : List Char) : Option (List Char) :=
  standardWithin (text.length + 1) text

end CallContract.Pattern
