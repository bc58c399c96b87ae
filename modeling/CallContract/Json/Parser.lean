import CallContract.Json.Basic
import CallContract.Text.Numeral

/-!
# Reading JSON text

`parse` reads one value and allows only blanks around it. Containers nest at
most 127 deep. A number without point and exponent is an integer if it fits 64
bits; any other number, and `-0`, is a double. Every refusal names its cause and
`ParseError.message` is its wording.
-/

set_option autoImplicit false

namespace CallContract

namespace Json

inductive ParseError where
  | endInList
  | endInObject
  | endInString
  | endInValue
  | expectedColon
  | expectedListEnd
  | expectedObjectEnd
  | expectedWord
  | expectedValue
  | invalidEscape
  | invalidNumber
  | numberOutOfRange
  | controlCharacter
  | keyNotString
  | loneSurrogate
  | unpairedSurrogate
  | trailingComma
  | trailingCharacters
  | tooDeep
  deriving DecidableEq, Repr

def ParseError.message : ParseError → String
  | .endInList => "EOF while parsing a list"
  | .endInObject => "EOF while parsing an object"
  | .endInString => "EOF while parsing a string"
  | .endInValue => "EOF while parsing a value"
  | .expectedColon => "expected `:`"
  | .expectedListEnd => "expected `,` or `]`"
  | .expectedObjectEnd => "expected `,` or `\x7d`"
  | .expectedWord => "expected ident"
  | .expectedValue => "expected value"
  | .invalidEscape => "invalid escape"
  | .invalidNumber => "invalid number"
  | .numberOutOfRange => "number out of range"
  | .controlCharacter => "control character (\\u0000-\\u001F) found while parsing a string"
  | .keyNotString => "key must be a string"
  | .loneSurrogate => "lone leading surrogate in hex escape"
  | .unpairedSurrogate => "unexpected end of hex escape"
  | .trailingComma => "trailing comma"
  | .trailingCharacters => "trailing characters"
  | .tooDeep => "recursion limit exceeded"

def skipBlanks (cs : List Char) : List Char :=
  cs.dropWhile fun c => c = ' ' || c = '\n' || c = '\t' || c = '\r'

def digitValue (c : Char) : Nat := c.toNat - '0'.toNat

/-- The rest of a number whose integer part did not fit 64 bits, or that has a point or an
exponent: further digits only move the exponent. -/
structure Mantissa where
  digits : Nat
  exponent : Int

def takeDigits (n : Nat) : List Char → Nat × List Char
  | [] => (n, [])
  | c :: cs =>
    if c.isDigit && n * 10 + digitValue c < UInt64.size then takeDigits (n * 10 + digitValue c) cs
    else (n, c :: cs)

def finishFloat (negative : Bool) (m : Mantissa) (rest : List Char) :
    Except ParseError (Number × List Char) :=
  match Binary64.scaled? negative m.digits m.exponent with
  | some x => .ok (.float x, rest)
  | none => .error .numberOutOfRange

/-- The part after `e`; an exponent beyond 31 bits makes zero or a number out of range. -/
def readExponent (negative : Bool) (m : Mantissa) (cs : List Char) :
    Except ParseError (Number × List Char) :=
  let (down, cs) := match cs with
    | '+' :: r => (false, r)
    | '-' :: r => (true, r)
    | r => (false, r)
  match cs with
  | [] => .error .endInValue
  | c :: _ =>
    if c.isDigit then
      let e := (cs.takeWhile Char.isDigit).foldl (fun n c => n * 10 + digitValue c) 0
      let rest := cs.dropWhile Char.isDigit
      if e < 0x80000000 then
        finishFloat negative ⟨m.digits, if down then m.exponent - e else m.exponent + e⟩ rest
      else if m.digits ≠ 0 && !down then .error .numberOutOfRange
      else .ok (.float ⟨negative, 0, -1074⟩, rest)
    else .error .invalidNumber

def isExponentMark (c : Char) : Bool := c = 'e' || c = 'E'

def readFraction (negative : Bool) (m : Mantissa) (cs : List Char) :
    Except ParseError (Number × List Char) :=
  match cs with
  | [] => .error .endInValue
  | c :: _ =>
    if c.isDigit then
      let (n, after) := takeDigits m.digits cs
      let places : Nat := cs.length - after.length
      let m : Mantissa := ⟨n, m.exponent - places⟩
      match after.dropWhile Char.isDigit with
      | e :: rest => if isExponentMark e then readExponent negative m rest
          else finishFloat negative m (e :: rest)
      | [] => finishFloat negative m []
    else .error .invalidNumber

def wholeNumber (negative : Bool) (n : Nat) : Number :=
  if !negative then .int n
  else if 0 < n ∧ n ≤ 0x8000000000000000 then .int (-(n : Int))
  else .float ((Binary64.nearest? true n 1).getD .zero)

def afterWhole (negative : Bool) (n : Nat) : List Char → Except ParseError (Number × List Char)
  | '.' :: rest => readFraction negative ⟨n, 0⟩ rest
  | c :: rest => if isExponentMark c then readExponent negative ⟨n, 0⟩ rest
      else .ok (wholeNumber negative n, c :: rest)
  | [] => .ok (wholeNumber negative n, [])

def readNumber (negative : Bool) : List Char → Except ParseError (Number × List Char)
  | [] => .error .endInValue
  | '0' :: rest => match rest with
    | c :: _ => if c.isDigit then .error .invalidNumber else afterWhole negative 0 rest
    | [] => afterWhole negative 0 rest
  | c :: rest =>
    if c.isDigit then
      let (n, after) := takeDigits (digitValue c) rest
      let dropped := after.takeWhile Char.isDigit
      if dropped.isEmpty then afterWhole negative n after
      else
        let m : Mantissa := ⟨n, dropped.length⟩
        match after.dropWhile Char.isDigit with
        | '.' :: r => readFraction negative m r
        | e :: r => if isExponentMark e then readExponent negative m r
            else finishFloat negative m (e :: r)
        | [] => finishFloat negative m []
    else .error .invalidNumber

/-- Four hexadecimal digits. With fewer than four bytes of text left the string has no end. -/
def readHex4 (cs : List Char) : Except ParseError (Nat × List Char) :=
  match cs with
  | a :: b :: c :: d :: rest =>
    match Numeral.natural? 16 [a, b, c, d] with
    | some n => .ok (n, rest)
    | none => .error .invalidEscape
  | short =>
    if (short.map Char.utf8Size).foldr (· + ·) 0 < 4 then .error .endInString
    else .error .invalidEscape

def readUnicodeEscape (cs : List Char) : Except ParseError (Char × List Char) := do
  let (high, rest) ← readHex4 cs
  if 0xDC00 ≤ high ∧ high ≤ 0xDFFF then .error .loneSurrogate
  else if high < 0xD800 ∨ 0xDBFF < high then .ok (Char.ofNat high, rest)
  else match rest with
    | [] => .error .endInString
    | ['\\'] => .error .endInString
    | '\\' :: 'u' :: rest => do
      let (low, rest) ← readHex4 rest
      if 0xDC00 ≤ low ∧ low ≤ 0xDFFF then
        .ok (Char.ofNat ((high - 0xD800) * 1024 + (low - 0xDC00) + 0x10000), rest)
      else .error .loneSurrogate
    | _ => .error .unpairedSurrogate

def simpleEscape? (c : Char) : Option Char :=
  match c with
  | '"' => some '"'
  | '\\' => some '\\'
  | '/' => some '/'
  | 'b' => some (Char.ofNat 8)
  | 'f' => some (Char.ofNat 12)
  | 'n' => some '\n'
  | 'r' => some '\r'
  | 't' => some '\t'
  | _ => none

def readString : Nat → List Char → List Char → Except ParseError (String × List Char)
  | 0, _, _ => .error .endInString
  | _ + 1, _, [] => .error .endInString
  | fuel + 1, done, c :: cs =>
    if c = '"' then .ok (String.ofList done.reverse, cs)
    else if c = '\\' then
      match cs with
      | [] => .error .endInString
      | 'u' :: rest => do
        let (decoded, rest) ← readUnicodeEscape rest
        readString fuel (decoded :: done) rest
      | e :: rest => match simpleEscape? e with
        | some decoded => readString fuel (decoded :: done) rest
        | none => .error .invalidEscape
    else if c.toNat < 32 then .error .controlCharacter
    else readString fuel (c :: done) cs

def readWord (value : Json) : List Char → List Char → Except ParseError (Json × List Char)
  | [], rest => .ok (value, rest)
  | _ :: _, [] => .error .endInValue
  | w :: word, c :: rest => if w = c then readWord value word rest else .error .expectedWord

def readItems (readValue : List Char → Except ParseError (Json × List Char)) :
    Nat → Bool → List Json → List Char → Except ParseError (List Json × List Char)
  | 0, _, _, _ => .error .endInList
  | fuel + 1, first, done, cs =>
    match skipBlanks cs with
    | [] => .error .endInList
    | ']' :: rest => .ok (done.reverse, rest)
    | c :: rest => do
      let start ← if first then .ok (c :: rest)
        else if c = ',' then
          match skipBlanks rest with
          | [] => .error ParseError.endInValue
          | ']' :: _ => .error .trailingComma
          | start => .ok start
        else .error .expectedListEnd
      let (x, rest) ← readValue start
      readItems readValue fuel false (x :: done) rest

def readEntries (readValue : List Char → Except ParseError (Json × List Char)) :
    Nat → Bool → Entries → List Char → Except ParseError (Entries × List Char)
  | 0, _, _, _ => .error .endInObject
  | fuel + 1, first, done, cs =>
    match skipBlanks cs with
    | [] => .error .endInObject
    | '\x7d' :: rest => .ok (done, rest)
    | c :: rest => do
      let start ← if first then
          if c = '"' then .ok rest else .error ParseError.keyNotString
        else if c = ',' then
          match skipBlanks rest with
          | [] => .error .endInValue
          | '"' :: start => .ok start
          | '\x7d' :: _ => .error .trailingComma
          | _ => .error .keyNotString
        else .error .expectedObjectEnd
      let (key, rest) ← readString (start.length + 1) [] start
      match skipBlanks rest with
      | ':' :: rest => do
        let (x, rest) ← readValue rest
        readEntries readValue fuel false (insertEntry key x done) rest
      | [] => .error .endInObject
      | _ => .error .expectedColon

def readValue : Nat → List Char → Except ParseError (Json × List Char)
  | depth, cs =>
    match skipBlanks cs with
    | [] => .error .endInValue
    | 'n' :: rest => readWord .null ['u', 'l', 'l'] rest
    | 't' :: rest => readWord (.bool true) ['r', 'u', 'e'] rest
    | 'f' :: rest => readWord (.bool false) ['a', 'l', 's', 'e'] rest
    | '"' :: rest => do
      let (s, rest) ← readString (rest.length + 1) [] rest
      .ok (.str s, rest)
    | '[' :: rest => match depth with
      | 0 => .error .tooDeep
      | depth + 1 => do
        let (xs, rest) ← readItems (readValue depth) (rest.length + 1) true [] rest
        .ok (.arr xs, rest)
    | '\x7b' :: rest => match depth with
      | 0 => .error .tooDeep
      | depth + 1 => do
        let (es, rest) ← readEntries (readValue depth) (rest.length + 1) true [] rest
        .ok (.obj es, rest)
    | '-' :: rest => do
      let (n, rest) ← readNumber true rest
      .ok (.num n, rest)
    | c :: rest =>
      if c.isDigit then do
        let (n, rest) ← readNumber false (c :: rest)
        .ok (.num n, rest)
      else .error .expectedValue

def parse (text : String) : Except ParseError Json := do
  let (x, rest) ← readValue 127 text.toList
  if (skipBlanks rest).isEmpty then .ok x else .error .trailingCharacters

end Json

end CallContract
