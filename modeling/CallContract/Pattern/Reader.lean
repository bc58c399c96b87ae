import CallContract.Pattern.ClassSet
import CallContract.Text.Numeral

/-!
# Reading patterns by the strict grammar

The strict grammar is that of patterns a finite automaton can match: it knows
neither a look around nor a reference to a group. Where white space is read
over, so are comments, from `#` to the end of the line. Reading notes where
digits, word characters and blanks are asked for by a letter.
-/

set_option autoImplicit false

namespace CallContract.Pattern

inductive Obstacle where
  | invalid
  /-- It would need a look around or a reference to a group. -/
  | beyond
  /-- An escape for a control character, with the number of characters from its backslash on. -/
  | control (left : Nat)
  deriving DecidableEq, Repr

/-- Where a reader stands. Places are given by the number of characters from there to the end. -/
structure Cursor where
  rest : List Char
  spaced : Bool
  shorts : List Nat
  bell : Bool
  names : List String

abbrev Reader := StateT Cursor (Except Obstacle)

inductive Primitive where
  | char (c : Char)
  | bell
  | set (s : ClassSet)
  | assertion

namespace Reader

def invalid {α : Type} : Reader α := throw .invalid

def isSpace (c : Char) : Bool := Property.whiteSpace.has c.toNat

def dropSpace : Bool → List Char → List Char
  | true, '\n' :: rest => dropSpace false rest
  | true, _ :: rest => dropSpace true rest
  | false, '#' :: rest => dropSpace true rest
  | false, c :: rest => if isSpace c then dropSpace false rest else c :: rest
  | _, [] => []

def rest : Reader (List Char) := return (← get).rest

def peek? : Reader (Option Char) := return (← get).rest.head?

def overSpace : Reader Unit :=
  modify fun c => if c.spaced then { c with rest := dropSpace false c.rest } else c

def advance (n : Nat) : Reader Unit :=
  modify fun c => { c with rest := c.rest.drop n }

def setRest (cs : List Char) : Reader Unit :=
  modify fun c => { c with rest := cs }

def step : Reader Unit := do
  advance 1
  overSpace

def stepOn : Reader Unit := do
  step
  if (← rest).isEmpty then invalid

def second? : Reader (Option Char) := do
  let c ← get
  match c.rest with
  | [] => return none
  | _ :: after =>
    if !c.spaced then return after.head?
    match after.dropWhile isSpace with
    | '#' :: comment => return (comment.dropWhile isSpace).head?
    | after => return after.head?

/-! ## Escapes -/

def isMeta (c : Char) : Bool := "\\.+*?()|[]\x7b\x7d^$#&-~".toList.contains c

def isEscapable (c : Char) : Bool :=
  c.toNat < 128 && !c.isAlphanum && c ≠ '<' && c ≠ '>'

def widthOfHex (letter : Char) : Nat :=
  match letter with
  | 'x' => 2
  | 'u' => 4
  | _ => 8

def scalar (digits : List Char) : Reader Char :=
  match (Numeral.natural? 16 digits).bind Numeral.scalar? with
  | some c => return c
  | none => invalid

def hex (width : Nat) : Reader Primitive := do
  match ← rest with
  | '\x7b' :: cs =>
    match cs.dropWhile (· ≠ '\x7d') with
    | [] => invalid
    | _ :: after =>
      setRest after
      return .char (← scalar (cs.takeWhile (· ≠ '\x7d')))
  | cs =>
    if cs.length < width then invalid
    else
      setRest (cs.drop width)
      return .char (← scalar (cs.take width))

def trait (negated : Bool) : Reader Primitive := do
  match ← rest with
  | '\x7b' :: cs =>
    match cs.dropWhile (· ≠ '\x7d') with
    | [] => invalid
    | _ :: after =>
      setRest after
      return .set (.trait (cs.takeWhile (· ≠ '\x7d')) negated)
  | '\\' :: _ => invalid
  | c :: after =>
    setRest after
    return .set (.trait [c] negated)
  | [] => invalid

def boundary : Reader Primitive := do
  if (← peek?) = some '\x7b' then invalid
  return .assertion

def special? (letter : Char) : Option Char :=
  match letter with
  | 'f' => some (Char.ofNat 12)
  | 't' => some '\t'
  | 'n' => some '\n'
  | 'r' => some '\r'
  | 'v' => some (Char.ofNat 11)
  | _ => none

def escape : Reader Primitive := do
  let left := (← rest).length
  advance 1
  match ← rest with
  | [] => invalid
  | c :: after =>
    if c.isDigit then throw .beyond
    setRest after
    if "xuU".toList.contains c then hex (widthOfHex c)
    else if "pP".toList.contains c then trait (c = 'P')
    else if "dDsSwW".toList.contains c then
      modify fun k => { k with shorts := left :: k.shorts }
      return .set (.short c)
    else if isMeta c || isEscapable c then return .char c
    else if c = 'a' then return .bell
    else if c = 'b' then boundary
    else if "BAz<>".toList.contains c then return .assertion
    else match special? c with
      | some s => return .char s
      | none =>
        if c = 'c' && (after.head?.map Char.isAlpha).getD false then throw (.control left)
        else invalid

/-! ## Classes -/

def member : Reader Primitive := do
  match ← rest with
  | '\\' :: _ => escape
  | c :: after =>
    setRest after
    return .char c
  | [] => invalid

def charOf : Primitive → Reader Char
  | .char c => return c
  | .bell => return Char.ofNat 7
  | _ => invalid

def setOf : Primitive → Reader ClassSet
  | .char c => return .char c
  | .bell => return .char (Char.ofNat 7)
  | .set s => return s
  | .assertion => invalid

/-- A member or a range of members. A hyphen before a closing bracket or another hyphen makes no
range. -/
def memberOrRange : Reader ClassSet := do
  let low ← member
  overSpace
  let after ← second?
  match ← peek? with
  | none => invalid
  | some '-' =>
    if after = some ']' || after = some '-' then setOf low
    else
      stepOn
      let high ← member
      let a ← charOf low
      let b ← charOf high
      if a ≤ b then return .range a b else invalid
  | some _ => setOf low

def asciiSet? (cs : List Char) : Option (ClassSet × List Char) :=
  match cs with
  | '[' :: ':' :: rest =>
    let (negated, rest) := match rest with
      | '^' :: r => (true, r)
      | r => (false, r)
    let name := String.ofList (rest.takeWhile (· ≠ ':'))
    match rest.dropWhile (· ≠ ':') with
    | ':' :: ']' :: after =>
      if (CharSet.named.lookup name).isSome then some (.ascii name negated, after) else none
    | _ => none
  | _ => none

def hyphens : Nat → List ClassSet → Reader (List ClassSet)
  | 0, items => return items
  | fuel + 1, items => do
    if (← peek?) = some '-' then
      stepOn
      hyphens fuel (.char '-' :: items)
    else return items

def joined (left : Option (ClassOp × ClassSet)) (items : List ClassSet) : ClassSet :=
  match left with
  | some (kind, s) => .op kind s (.ofItems items.reverse)
  | none => .ofItems items.reverse

mutual

def bracket : Nat → Reader ClassSet
  | 0 => invalid
  | fuel + 1 => do
    stepOn
    let negated := (← peek?) = some '^'
    if negated then stepOn
    let items ← hyphens (← rest).length []
    let items ← if items.isEmpty && (← peek?) = some ']' then
        stepOn
        pure [.char ']']
      else pure items
    return .bracket (← members fuel items none) negated

def members : Nat → List ClassSet → Option (ClassOp × ClassSet) → Reader ClassSet
  | 0, _, _ => invalid
  | fuel + 1, items, left => do
    overSpace
    match ← rest with
    | [] => invalid
    | ']' :: after =>
      setRest after
      return joined left items
    | '&' :: '&' :: after =>
      setRest after
      members fuel [] (some (.intersection, joined left items))
    | '-' :: '-' :: after =>
      setRest after
      members fuel [] (some (.difference, joined left items))
    | '~' :: '~' :: after =>
      setRest after
      members fuel [] (some (.symmetricDifference, joined left items))
    | '[' :: after =>
      match asciiSet? ('[' :: after) with
      | some (s, after) =>
        setRest after
        members fuel (s :: items) left
      | none => members fuel ((← bracket fuel) :: items) left
    | _ => members fuel ((← memberOrRange) :: items) left

end

def class? (text : List Char) : Option ClassSet :=
  match (bracket (2 * text.length + 2)).run ⟨text, false, [], false, []⟩ with
  | .ok (s, c) => if c.rest.isEmpty then some s else none
  | .error _ => none

end Reader

end CallContract.Pattern
