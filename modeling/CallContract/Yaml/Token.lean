import CallContract.Yaml.BlockScalar
import CallContract.Yaml.FlowScalar

/-!
# Tokens and layout

Tokens make the indentation of a document explicit: a block collection opens
with a token of its own and closes with `blockEnd` when a later line stands
further left. A mapping key is known as one only when its colon is met, so every
place where a key may begin is remembered, one for each open flow collection,
and the `key` token is put there afterwards. Such a key is on one line and at
most 1024 characters long.
-/

set_option autoImplicit false

namespace CallContract.Yaml

inductive Token where
  | version (major minor : Nat)
  | tagHandle (handle : String)
  | documentStart
  | documentEnd
  | blockSequenceStart
  | blockMappingStart
  | blockEnd
  | flowSequenceStart
  | flowSequenceEnd
  | flowMappingStart
  | flowMappingEnd
  | blockEntry
  | flowEntry
  | key
  | value
  | alias (name : String)
  | anchor (name : String)
  | tag
  | scalar (text : String) (plain : Bool)
  deriving DecidableEq, Repr

structure PossibleKey where
  position : Nat
  /-- In a block mapping what stands at its indentation has to be a key. -/
  required : Bool
  index : Nat
  line : Nat
  column : Nat

structure Layout where
  cursor : Cursor
  tokens : Array Token
  /-- The columns of the open block collections, innermost first. -/
  blocks : List Nat
  key : Option PossibleKey
  /-- The possible keys around each open flow collection, innermost first. -/
  outer : List (Option PossibleKey)
  keyAllowed : Bool

namespace Layout

def start (text : List Char) : Layout := ⟨.start text, #[], [], none, [], true⟩

def inFlow (s : Layout) : Bool := !s.outer.isEmpty

def margin (s : Layout) : Nat :=
  match s.blocks with
  | [] => 0
  | column :: _ => column + 1

def emit (s : Layout) (t : Token) : Layout := { s with tokens := s.tokens.push t }

def insert (s : Layout) (position : Nat) (t : Token) : Layout :=
  { s with tokens := s.tokens.insertIdxIfInBounds position t }

def skip (s : Layout) (n : Nat) : Layout := { s with cursor := s.cursor.skip n }

/-- A key that does not get its colon in time; nothing if a key was required there. -/
def expire (c : Cursor) : Option PossibleKey → Option (Option PossibleKey)
  | none => some none
  | some k =>
    if k.line < c.line || k.index + 1024 < c.index then if k.required then none else some none
    else some (some k)

def expireKeys (s : Layout) : Option Layout := do
  let key ← expire s.cursor s.key
  let outer ← s.outer.mapM (expire s.cursor)
  some { s with key, outer }

def dropKey (s : Layout) : Option Layout :=
  if s.key.any (·.required) then none else some { s with key := none }

def markKey (s : Layout) : Option Layout :=
  if s.keyAllowed then do
    let s ← s.dropKey
    let c := s.cursor
    let required := !s.inFlow && s.margin == c.column + 1
    some { s with key := some ⟨s.tokens.size, required, c.index, c.line, c.column⟩ }
  else some s

def closeBlocks (s : Layout) (column : Nat) : Layout :=
  if s.inFlow then s
  else
    let closed := s.blocks.takeWhile (column < ·)
    { s with
      blocks := s.blocks.drop closed.length
      tokens := s.tokens ++ Array.replicate closed.length .blockEnd }

def closeAll (s : Layout) : Layout :=
  if s.inFlow then s
  else { s with blocks := [], tokens := s.tokens ++ Array.replicate s.blocks.length .blockEnd }

def openBlock (s : Layout) (column position : Nat) (t : Token) : Layout :=
  if !s.inFlow && s.margin ≤ column then
    { s.insert position t with blocks := column :: s.blocks }
  else s

def openHere (s : Layout) (t : Token) : Option Layout :=
  if s.inFlow then some s
  else if s.keyAllowed then some (s.openBlock s.cursor.column s.tokens.size t)
  else none

/-- Passes blanks, comments and line breaks. A tab is a blank only where no key may begin. -/
def skipGap (s : Layout) : Nat → Layout
  | 0 => s
  | fuel + 1 =>
    let c := s.cursor
    let c := if c.column = 0 && c.head? = some '\uFEFF' then c.skip 1 else c
    let c := c.skipWhile fun x => x = ' ' || (x = '\t' && (s.inFlow || !s.keyAllowed))
    let c := if c.head? = some '#' then c.skipLine else c
    if c.head?.any isBreak then
      { s with cursor := c.nextLine, keyAllowed := s.keyAllowed || !s.inFlow }.skipGap fuel
    else { s with cursor := c }

def documentMark (s : Layout) (t : Token) : Option Layout := do
  let s ← s.closeAll.dropKey
  some ({ s with keyAllowed := false }.skip 3 |>.emit t)

def openFlow (s : Layout) (t : Token) : Option Layout := do
  let s ← s.markKey
  some ({ s with outer := s.key :: s.outer, key := none, keyAllowed := true }.skip 1 |>.emit t)

def closeFlow (s : Layout) (t : Token) : Option Layout := do
  let s ← s.dropKey
  let s := match s.outer with
    | [] => s
    | key :: outer => { s with key, outer }
  some ({ s with keyAllowed := false }.skip 1 |>.emit t)

def flowEntry (s : Layout) : Option Layout := do
  let s ← s.dropKey
  some ({ s with keyAllowed := true }.skip 1 |>.emit .flowEntry)

def blockEntry (s : Layout) : Option Layout := do
  let s ← s.openHere .blockSequenceStart
  let s ← s.dropKey
  some ({ s with keyAllowed := true }.skip 1 |>.emit .blockEntry)

def announceKey (s : Layout) : Option Layout := do
  let s ← s.openHere .blockMappingStart
  let s ← s.dropKey
  some ({ s with keyAllowed := !s.inFlow }.skip 1 |>.emit .key)

def value (s : Layout) : Option Layout := do
  let s ← match s.key with
    | some k =>
      let s := (s.insert k.position .key).openBlock k.column k.position .blockMappingStart
      some { s with key := none, keyAllowed := false }
    | none => do
      let s ← s.openHere .blockMappingStart
      some { s with keyAllowed := !s.inFlow }
  some (s.skip 1 |>.emit .value)

def isNameChar (c : Char) : Bool := c.isAlphanum || c = '-' || c = '_'

def endsName (c : Option Char) : Bool :=
  isGap c || c.any (· ∈ ['?', ':', ',', ']', '\x7d', '%', '@', '\x60'])

def named (s : Layout) (t : String → Token) : Option Layout := do
  let s ← s.markKey
  let s := s.skip 1
  let name := s.cursor.rest.takeWhile isNameChar
  let s := s.skip name.length
  if name.isEmpty || !endsName s.cursor.head? then none
  else some ({ s with keyAllowed := false }.emit (t (String.ofList name)))

def tag (s : Layout) : Option Layout := do
  let s ← s.markKey
  let c := s.cursor.skipWhile fun x => !isGap (some x) && !(s.inFlow && isFlowIndicator x)
  if isGap c.head? || (s.inFlow && c.head? = some ',') then
    some ({ s with cursor := c, keyAllowed := false }.emit .tag)
  else none

def blockScalar (s : Layout) (folded : Bool) : Option Layout := do
  let s ← s.dropKey
  let (text, c) ← block? folded s.margin s.cursor
  some ({ s with cursor := c, keyAllowed := true }.emit (.scalar text false))

def quotedScalar (s : Layout) (double : Bool) : Option Layout := do
  let s ← s.markKey
  let (text, c) ← quoted? double s.cursor
  some ({ s with cursor := c, keyAllowed := false }.emit (.scalar text false))

def plainScalar (s : Layout) : Option Layout := do
  let s ← s.markKey
  let (text, g, c) ← plain? s.inFlow s.margin s.cursor
  some ({ s with cursor := c, keyAllowed := g.breaks }.emit (.scalar text true))

def pieces : List Char → List (List Char)
  | [] => [[]]
  | x :: rest =>
    if isBlank x then [] :: pieces rest
    else match pieces rest with
      | [] => [[x]]
      | piece :: more => (x :: piece) :: more

def words (line : List Char) : List (List Char) := (pieces line).filter (!·.isEmpty)

def version? (cs : List Char) : Option Token := do
  let major ← Numeral.natural? 10 (cs.takeWhile Char.isDigit)
  match cs.dropWhile Char.isDigit with
  | '.' :: rest => (Numeral.natural? 10 rest).map (.version major)
  | _ => none

def isTagHandle : List Char → Bool
  | ['!'] => true
  | '!' :: inner => inner.getLast? = some '!' && inner.dropLast.all isNameChar
  | _ => false

def directive? : List (List Char) → Option Token
  | [['Y', 'A', 'M', 'L'], v] => version? v
  | [['T', 'A', 'G'], handle, _] =>
    if isTagHandle handle then some (.tagHandle (String.ofList handle)) else none
  | _ => none

def isComment (word : List Char) : Bool := word.head? = some '#'

def directive (s : Layout) : Option Layout := do
  let s ← s.closeAll.dropKey
  let c := s.cursor.skip 1
  let line := c.rest.takeWhile fun x => !isBreak x
  let t ← directive? ((words line).takeWhile (!isComment ·))
  some ({ s with cursor := c.skip line.length, keyAllowed := false }.emit t)

def next (s : Layout) (x : Char) : Option Layout :=
  let c := s.cursor
  let alone := s.inFlow || isGap c.second?
  if c.column = 0 && x = '%' then s.directive
  else if c.atDocumentMark then s.documentMark (if x = '-' then .documentStart else .documentEnd)
  else if x = '[' then s.openFlow .flowSequenceStart
  else if x = '\x7b' then s.openFlow .flowMappingStart
  else if x = ']' then s.closeFlow .flowSequenceEnd
  else if x = '\x7d' then s.closeFlow .flowMappingEnd
  else if x = ',' then s.flowEntry
  else if x = '-' && isGap c.second? then s.blockEntry
  else if x = '?' && alone then s.announceKey
  else if x = ':' && alone then s.value
  else if x = '*' then s.named .alias
  else if x = '&' then s.named .anchor
  else if x = '!' then s.tag
  else if x = '|' && !s.inFlow then s.blockScalar false
  else if x = '>' && !s.inFlow then s.blockScalar true
  else if x = '\'' then s.quotedScalar false
  else if x = '"' then s.quotedScalar true
  else if startsPlain s.inFlow c.rest then s.plainScalar
  else none

/-- Reads up to the end of the text. Every token takes at least one character. -/
def run : Nat → Layout → Option (List Token)
  | 0, _ => none
  | fuel + 1, s => do
    let s := s.skipGap (s.cursor.rest.length + 1)
    let s ← s.expireKeys
    match s.cursor.head? with
    | none => do
      let s ← s.closeAll.dropKey
      some s.tokens.toList
    | some x => do
      let s ← (s.closeBlocks s.cursor.column).next x
      run fuel s

end Layout

def tokens? (text : String) : Option (List Token) :=
  let cs := text.toList
  if cs.all isPrintable then Layout.run (cs.length + 1) (.start cs) else none

end CallContract.Yaml
