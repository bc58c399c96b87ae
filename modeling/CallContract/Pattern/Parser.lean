import CallContract.Pattern.Grammar
import CallContract.Pattern.Size

/-!
# Reading expressions

A text in standard form is read as an expression. This reading is wider than the
strict grammar: it knows looks around, references, atomic groups and conditions.
A brace that starts no repetition stands for itself. Flags stay in force up to
the end of the group that they are part of, or else of the text.
-/

set_option autoImplicit false

namespace CallContract.Pattern

structure Flags where
  anyCase : Bool := false
  lines : Bool := false
  wideDot : Bool := false
  lazily : Bool := false
  spaced : Bool := false

structure Draft where
  rest : List Char
  bytes : Nat
  flags : Flags
  opened : Nat
  names : List (String × Nat)
  used : List Nat
  numbered : Bool

abbrev Parser := StateT Draft Option

inductive Escape where
  | char (c : Char)
  | set (text : List Char)
  | expr (e : Expr)

namespace Parser

def rest : Parser (List Char) := return (← get).rest

def setRest (cs : List Char) : Parser Unit := modify fun d => { d with rest := cs }

def advance (n : Nat) : Parser Unit := modify fun d => { d with rest := d.rest.drop n }

def flags : Parser Flags := return (← get).flags

def setFlags (f : Flags) : Parser Unit := modify fun d => { d with flags := f }

def afterComment? : List Char → Option (List Char)
  | ')' :: rest => some rest
  | '\\' :: _ :: rest => afterComment? rest
  | _ :: rest => afterComment? rest
  | [] => none

def afterBlank? (spaced : Bool) : Nat → List Char → Option (List Char)
  | 0, cs => some cs
  | fuel + 1, cs =>
    match cs with
    | [] => some []
    | '(' :: '?' :: '#' :: rest => (afterComment? rest).bind (afterBlank? spaced fuel)
    | c :: rest =>
      if spaced && c = '#' then afterBlank? spaced fuel ((rest.dropWhile (· ≠ '\n')).drop 1)
      else if spaced && " \t\r\n".toList.contains c then afterBlank? spaced fuel rest
      else some cs

def overBlank : Parser Unit := do
  let d ← get
  setRest (← afterBlank? d.flags.spaced d.rest.length d.rest)

def close : Parser Unit := do
  overBlank
  match ← rest with
  | ')' :: after => setRest after
  | _ => failure

def literal (c : Char) : Parser Expr :=
  return .one (ClassSet.foldedIf (← flags).anyCase (.single c))

def setOf (text : List Char) : Parser Expr := do
  let s ← Reader.class? text
  return .one (← s.meaning? (← flags).anyCase)

/-! ## References -/

def decimal? : Parser (Option Nat) := do
  let cs ← rest
  match Numeral.natural? 10 (cs.takeWhile Char.isDigit) with
  | some n =>
    if n < UInt64.size then
      setRest (cs.dropWhile Char.isDigit)
      return some n
    else return none
  | none => return none

def refer (index : Nat) : Parser Expr := do
  if (← get).opened < index then failure
  modify fun d => { d with used := index :: d.used }
  return .copy index

def byNumber : Parser Expr := do
  match ← decimal? with
  | some n =>
    if 2 * n + 2 ≤ (← get).bytes then
      modify fun d => { d with numbered := true }
      refer n
    else failure
  | none => failure

def nameUpTo (mark : Char) : Parser (List Char) := do
  let isPart := fun c : Char => c = '_' || Reader.isAlphanumeric c
  let cs ← rest
  let name := cs.takeWhile isPart
  match cs.dropWhile isPart with
  | c :: after =>
    if name.isEmpty || c ≠ mark then failure
    setRest after
    return name
  | [] => failure

def byName (mark : Char) : Parser Expr := do
  match ← rest with
  | '-' :: after =>
    setRest after
    match Numeral.natural? 10 (← nameUpTo mark) with
    | some n => if n = 0 || (← get).opened < n then failure else refer ((← get).opened + 1 - n)
    | none => failure
  | _ =>
    let name ← nameUpTo mark
    match (← get).names.lookup (String.ofList name), Numeral.natural? 10 name with
    | some index, _ => refer index
    | none, some n => refer n
    | none, none => failure

/-! ## Escapes and classes -/

def hex (width : Nat) : Parser Char := do
  let cs ← rest
  let isHex := fun c : Char => (Numeral.natural? 16 [c]).isSome
  let digits := cs.take width
  if digits.length = width && digits.all isHex then
    setRest (cs.drop width)
    (Numeral.natural? 16 digits).bind Numeral.scalar?
  else match cs with
    | '\x7b' :: cs =>
      let digits := cs.takeWhile isHex
      match cs.dropWhile isHex with
      | '\x7d' :: after =>
        if 8 < digits.length then failure
        setRest after
        (Numeral.natural? 16 digits).bind Numeral.scalar?
      | _ => failure
    | _ => failure

def query : Parser (List Char) := do
  match ← rest with
  | '\x7b' :: cs =>
    match cs.dropWhile (· ≠ '\x7d') with
    | _ :: after =>
      setRest after
      return '\x7b' :: cs.takeWhile (· ≠ '\x7d') ++ ['\x7d']
    | [] => failure
  | c :: after =>
    setRest after
    return [c]
  | [] => failure

def wordEdge (a : Anchor) : Parser Escape := do
  if (← rest).head? = some '\x7b' then failure
  return .expr (.anchor a)

def outside? (letter : Char) : Option (Parser Escape) :=
  match letter with
  | 'k' => some do
    match ← rest with
    | '\'' :: after =>
      setRest after
      return .expr (← byName '\'')
    | '<' :: after =>
      setRest after
      return .expr (← byName '>')
    | _ => failure
  | 'A' => some (return .expr (.anchor .textStart))
  | 'z' => some (return .expr (.anchor .textEnd))
  | 'b' => some (wordEdge .wordEdge)
  | 'B' => some (wordEdge .noWordEdge)
  | '<' => some (return .expr (.anchor .wordStart))
  | '>' => some (return .expr (.anchor .wordEnd))
  | 'K' => some (return .expr (.atomic .empty))
  | 'G' => some (return .expr (.atomic (.anchor .textStart)))
  | _ => none

def special? (letter : Char) : Option Char :=
  match letter with
  | 'a' => some (Char.ofNat 7)
  | 'b' => some (Char.ofNat 8)
  | 'e' => some (Char.ofNat 27)
  | c => Reader.special? c

def escape (inClass : Bool) : Parser Escape := do
  advance 1
  match ← rest with
  | [] => failure
  | c :: after =>
    if c.isDigit then return .expr (← byNumber)
    setRest after
    match if inClass then none else outside? c with
    | some found => found
    | none =>
      if "dDsSwW".toList.contains c then return .set ['\\', c]
      else if c = 'h' then return .set "[0-9A-Fa-f]".toList
      else if c = 'H' then return .set "[^0-9A-Fa-f]".toList
      else if "xuU".toList.contains c then return .char (← hex (Reader.widthOfHex c))
      else if "pP".toList.contains c && !after.isEmpty then return .set ('\\' :: c :: (← query))
      else match special? c with
        | some s => return .char s
        | none => if c.isAlpha && !("kAzBKG".toList.contains c) then failure else return .char c

def classText : Nat → Nat → List Char → Parser (List Char)
  | 0, _, _ => failure
  | fuel + 1, nested, found => do
    overBlank
    match ← rest with
    | [] => failure
    | '\\' :: _ =>
      match ← escape true with
      | .char c =>
        classText fuel nested (if Reader.isMeta c then c :: '\\' :: found else c :: found)
      | .set text => classText fuel nested (text.reverse ++ found)
      | .expr _ => failure
    | '[' :: after =>
      setRest after
      classText fuel (nested + 1) ('[' :: found)
    | ']' :: after =>
      setRest after
      match nested with
      | 0 => return (']' :: found).reverse
      | n + 1 => classText fuel n (']' :: found)
    | c :: after =>
      setRest after
      classText fuel nested (c :: found)

def accept (c : Char) : Parser (List Char) := do
  match ← rest with
  | d :: after =>
    if c = d then
      setRest after
      return [c]
    else return []
  | [] => return []

def bracket : Parser Expr := do
  advance 1
  let negated ← accept '^'
  let member ← accept ']'
  let text ← classText ((← rest).length + 1) 0 (member ++ negated ++ ['['])
  setOf text

/-! ## Repetitions -/

def bounds : Parser (Nat × Option Nat) := do
  advance 1
  overBlank
  let least ← match ← rest with
    | ',' :: _ => pure 0
    | _ =>
      let some n ← decimal? | failure
      pure n
  overBlank
  let most ← match ← rest with
    | ',' :: after =>
      setRest after
      overBlank
      decimal?
    | _ => pure (some least)
  overBlank
  match ← rest with
  | '\x7d' :: after =>
    setRest after
    return (least, most)
  | _ => failure

def sign? : Parser (Option (Nat × Option Nat)) := do
  match ← rest with
  | '?' :: after =>
    setRest after
    return some (0, some 1)
  | '*' :: after =>
    setRest after
    return some (0, none)
  | '+' :: after =>
    setRest after
    return some (1, none)
  | '\x7b' :: _ => (some <$> bounds) <|> pure none
  | _ => return none

def isRepeatable : Expr → Bool
  | .empty => false
  | .anchor _ => false
  | .look _ _ _ => false
  | _ => true

def repeated (e : Expr) : Parser Expr := do
  overBlank
  match ← sign? with
  | none => return e
  | some (least, most) =>
    if !isRepeatable e then failure
    overBlank
    let marked := !(← accept '?').isEmpty
    let e := Expr.times e least most (marked == (← flags).lazily)
    if (← accept '+').isEmpty then return e else return .atomic e

/-! ## Groups -/

def groupLimit : Nat := 64

inductive Opening where
  | group (wrap : Expr → Expr)
  /-- A group without effect, and the flags in force after it. -/
  | plain (after : Flags)
  | condition
  | done (e : Expr)

def openGroup (names : List String) : Parser Opening := do
  modify fun d => { d with
    opened := d.opened + 1
    names := names.map (·, d.opened + 1) ++ d.names }
  return .group (.group (some (← get).opened))

def change? (on : Bool) (letter : Char) (f : Flags) : Option Flags :=
  match letter with
  | 'i' => some { f with anyCase := on }
  | 'm' => some { f with lines := on }
  | 's' => some { f with wideDot := on }
  | 'U' => some { f with lazily := on }
  | 'x' => some { f with spaced := on }
  | 'u' => if on then some f else none
  | _ => none

/-- Flags after a question mark, given how many signs were read, whether a hyphen was among them,
and the flags before the group. -/
def flagged (before : Flags) : Nat → Nat → Bool → Parser Opening
  | 0, _, _ => failure
  | fuel + 1, read, negated => do
    overBlank
    let bare := negated && read = 1
    match ← rest with
    | ')' :: after =>
      if read = 0 || bare then failure
      setRest after
      return .done .empty
    | ':' :: after =>
      if bare then failure
      setRest after
      return .plain before
    | '-' :: after =>
      if negated then failure
      setRest after
      flagged before fuel (read + 1) true
    | c :: after =>
      setFlags (← change? (!negated) c (← flags))
      setRest after
      flagged before fuel (read + 1) negated
    | [] => failure

def opening : Parser Opening := do
  match ← rest with
  | '?' :: '=' :: after =>
    setRest after
    return .group (.look true true)
  | '?' :: '!' :: after =>
    setRest after
    return .group (.look true false)
  | '?' :: '<' :: '=' :: after =>
    setRest after
    return .group (.look false true)
  | '?' :: '<' :: '!' :: after =>
    setRest after
    return .group (.look false false)
  | '?' :: '<' :: after =>
    setRest after
    openGroup [String.ofList (← nameUpTo '>')]
  | '?' :: 'P' :: '<' :: after =>
    setRest after
    openGroup [String.ofList (← nameUpTo '>')]
  | '?' :: 'P' :: '=' :: after =>
    setRest after
    return .done (← byName ')')
  | '?' :: '>' :: after =>
    setRest after
    return .group .atomic
  | '?' :: '(' :: after =>
    setRest after
    return .condition
  | '?' :: after =>
    setRest after
    flagged (← flags) (after.length + 1) 0 false
  | _ => openGroup []

def asCondition : Expr → Expr
  | .copy index => .matched index
  | e => e

def conditional (test body : Expr) : Expr :=
  match body.alternatives with
  | yes :: no =>
    let no := Expr.ofChoice no
    if yes.isEmpty && no.isEmpty then asCondition test else .branch (asCondition test) yes no
  | [] => asCondition test

mutual

def choice : Nat → Nat → List Expr → Parser Expr
  | 0, _, _ => failure
  | fuel + 1, depth, before => do
    let e ← row fuel depth []
    overBlank
    match ← rest, before with
    | '|' :: after, _ =>
      setRest after
      choice fuel depth (e :: before)
    | _, [] =>
      let d ← get
      if d.numbered && !d.names.isEmpty then failure
      return e
    | _, _ => return .ofChoice (e :: before).reverse

def row : Nat → Nat → List Expr → Parser Expr
  | 0, _, _ => failure
  | fuel + 1, depth, before => do
    let left := (← rest).length
    if left = 0 then return .ofRow before.reverse
    let e ← repeated (← item fuel depth)
    if (← rest).length = left then return .ofRow before.reverse
    else row fuel depth (if e.isEmpty then before else e :: before)

def item : Nat → Nat → Parser Expr
  | 0, _ => failure
  | fuel + 1, depth => do
    overBlank
    match ← rest with
    | [] => return .empty
    | c :: after =>
      if "+*?|)".toList.contains c then return .empty
      else if c = '(' then group fuel (depth + 1)
      else if c = '[' then bracket
      else if c = '\\' then
        match ← escape false with
        | .char c => literal c
        | .set text => setOf ('[' :: text ++ [']'])
        | .expr e => return e
      else
        setRest after
        let f ← flags
        match c with
        | '.' => return .one (if f.wideDot then .compl .empty else .inLine)
        | '^' => return .anchor (if f.lines then .lineStart else .textStart)
        | '$' => return .anchor (if f.lines then .lineEnd else .textEnd)
        | c => literal c

def group : Nat → Nat → Parser Expr
  | 0, _ => failure
  | fuel + 1, depth => do
    if groupLimit ≤ depth then failure
    advance 1
    overBlank
    match ← opening with
    | .done e => return e
    | .group wrap =>
      let e ← choice fuel depth []
      close
      return wrap e
    | .plain after =>
      let e ← choice fuel depth []
      close
      setFlags after
      return e
    | .condition =>
      let test ← condition fuel depth
      close
      let left := (← rest).length
      let body ← choice fuel depth []
      if (← rest).length = left then
        match test with
        | .copy index =>
          close
          return .matched index
        | _ => failure
      else
        close
        return conditional test body

def condition : Nat → Nat → Parser Expr
  | 0, _ => failure
  | fuel + 1, depth => do
    match ← rest with
    | '\'' :: after =>
      setRest after
      byName '\''
    | '<' :: after =>
      setRest after
      byName '>'
    | c :: _ => if c.isDigit then byNumber else choice fuel depth []
    | [] => failure

end

/-- The expression that a text in standard form describes. Every character is read at most four
levels down, which bounds the budget. -/
def expression? (text : List Char) : Option Expr := do
  let bytes := (String.ofList text).utf8ByteSize
  let (e, d) ← (choice (5 * text.length + 5) 0 []).run ⟨text, bytes, {}, 0, [], [], false⟩
  if d.rest.isEmpty then return e.settle d.used else failure

end Parser

end CallContract.Pattern
