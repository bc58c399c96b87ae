import CallContract.Text.Numeral
import CallContract.Yaml.Cursor

/-!
# Quoted and plain scalars

The lines of a quoted or plain scalar are folded: blanks around a line break
are dropped, a single break becomes a blank, and of several breaks the first is
dropped. In double quotes a backslash starts an escape, and in front of a line
break it joins the lines.
-/

set_option autoImplicit false

namespace CallContract.Yaml

inductive Gap where
  | blanks (text : List Char)
  | folded (first : Char) (more : List Char)
  | joined (more : List Char)

namespace Gap

def text : Gap → List Char
  | .blanks t => t
  | .folded first more =>
    if first ≠ '\n' then first :: more else if more.isEmpty then [' '] else more
  | .joined more => more

def breaks : Gap → Bool
  | .blanks _ => false
  | _ => true

def addBlank (g : Gap) (c : Char) : Gap :=
  match g with
  | .blanks t => .blanks (t ++ [c])
  | g => g

def addBreak (g : Gap) (c : Char) : Gap :=
  match g with
  | .blanks _ => .folded c []
  | .folded first more => .folded first (more ++ [c])
  | .joined more => .joined (more ++ [c])

/-- Reads on in a gap. On a later line no tab may stand left of the margin. -/
def read (margin : Nat) : Nat → Gap → Cursor → Option (Gap × Cursor)
  | 0, g, c => some (g, c)
  | fuel + 1, g, c => match c.head? with
    | none => some (g, c)
    | some x =>
      if isBlank x then
        if g.breaks && x = '\t' && c.column < margin then none
        else read margin fuel (g.addBlank x) (c.skip 1)
      else if isBreak x then read margin fuel (g.addBreak (breakText x)) c.nextLine
      else some (g, c)

end Gap

def hexEscape? (width : Nat) (cs : List Char) : Option (Char × Nat) :=
  if (cs.take width).length = width then
    ((Numeral.natural? 16 (cs.take width)).bind Numeral.scalar?).map (·, width + 2)
  else none

def escape? : List Char → Option (Char × Nat)
  | [] => none
  | e :: rest =>
    match e with
    | '0' => some (Char.ofNat 0, 2)
    | 'a' => some (Char.ofNat 7, 2)
    | 'b' => some (Char.ofNat 8, 2)
    | 't' => some ('\t', 2)
    | '\t' => some ('\t', 2)
    | 'n' => some ('\n', 2)
    | 'v' => some (Char.ofNat 11, 2)
    | 'f' => some (Char.ofNat 12, 2)
    | 'r' => some ('\r', 2)
    | 'e' => some (Char.ofNat 27, 2)
    | ' ' => some (' ', 2)
    | '"' => some ('"', 2)
    | '/' => some ('/', 2)
    | '\\' => some ('\\', 2)
    | 'N' => some (Char.ofNat 0x85, 2)
    | '_' => some (Char.ofNat 0xA0, 2)
    | 'L' => some (Char.ofNat 0x2028, 2)
    | 'P' => some (Char.ofNat 0x2029, 2)
    | 'x' => hexEscape? 2 rest
    | 'u' => hexEscape? 4 rest
    | 'U' => hexEscape? 8 rest
    | _ => none

def readQuoted (double : Bool) : Nat → List Char → Cursor → Option (String × Cursor)
  | 0, _, _ => none
  | fuel + 1, done, c =>
    let fold (g : Gap) (c : Cursor) : Option (String × Cursor) := do
      let (g, c) ← g.read 0 c.rest.length c
      if c.atDocumentMark then none else readQuoted double fuel (g.text.reverse ++ done) c
    match c.rest with
    | [] => none
    | x :: rest =>
      if isBlank x || isBreak x then fold (.blanks []) c
      else if x = (if double then '"' else '\'') then
        if !double && rest.head? = some '\'' then readQuoted double fuel ('\'' :: done) (c.skip 2)
        else some (String.ofList done.reverse, c.skip 1)
      else if double && x = '\\' then
        if rest.head?.any isBreak then fold (.joined []) (c.skip 1).nextLine
        else do
          let (e, length) ← escape? rest
          readQuoted double fuel (e :: done) (c.skip length)
      else readQuoted double fuel (x :: done) (c.skip 1)

def quoted? (double : Bool) (c : Cursor) : Option (String × Cursor) :=
  readQuoted double (c.rest.length + 1) [] (c.skip 1)

def isFlowIndicator (c : Char) : Bool := c ∈ [',', '[', ']', '\x7b', '\x7d']

def endsPlain (flow : Bool) : List Char → Bool
  | [] => true
  | x :: rest => (x = ':' && isGap rest.head?) || (flow && isFlowIndicator x)

def isStrayColon (flow : Bool) : List Char → Bool
  | ':' :: y :: _ => flow && (isFlowIndicator y || y = '?')
  | _ => false

/-- The rest of a plain scalar, with the gap in front of it. The last gap is no part of the scalar,
but whether it reaches a later line matters to what follows. -/
def readPlain (flow : Bool) (margin : Nat) :
    Nat → List Char → Gap → Cursor → Option (String × Gap × Cursor)
  | 0, _, _, _ => none
  | fuel + 1, done, g, c =>
    let here := (String.ofList done.reverse, g, c)
    match c.rest with
    | [] => some here
    | x :: rest =>
      if isBlank x || isBreak x then do
        let (g, c) ← (Gap.blanks []).read margin c.rest.length c
        if (!flow && c.column < margin) || c.atDocumentMark || c.head? = some '#' then
          some (String.ofList done.reverse, g, c)
        else readPlain flow margin fuel done g c
      else if isStrayColon flow (x :: rest) then none
      else if endsPlain flow (x :: rest) then some here
      else readPlain flow margin fuel (x :: (g.text.reverse ++ done)) (.blanks []) (c.skip 1)

def plain? (flow : Bool) (margin : Nat) (c : Cursor) : Option (String × Gap × Cursor) :=
  readPlain flow margin (c.rest.length + 1) [] (.blanks []) c

def startsPlain (flow : Bool) : List Char → Bool
  | [] => false
  | x :: rest =>
    if x = '-' then !rest.head?.any isBlank
    else if x = '?' || x = ':' then !flow && !isGap rest.head?
    else !isBlank x && !isBreak x
      && x ∉ [',', '[', ']', '\x7b', '\x7d', '#', '&', '*', '!', '|', '>', '\'', '"', '%', '@',
        '\x60']

end CallContract.Yaml
