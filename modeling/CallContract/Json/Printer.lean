import CallContract.Json.Basic

/-!
# JSON text

Compact text has no blanks; pretty text puts every member on a line of its own,
two blanks further in for each level. Strings escape quotes, backslashes and
the controls below `0x20`, and nothing else.
-/

set_option autoImplicit false

namespace CallContract.Json

def hexDigits (width n : Nat) : List Char :=
  let ds := Nat.toDigits 16 n
  List.replicate (width - ds.length) '0' ++ ds

def escapeChar (c : Char) : List Char :=
  if c = '"' then ['\\', '"']
  else if c = '\\' then ['\\', '\\']
  else if c = '\n' then ['\\', 'n']
  else if c = '\r' then ['\\', 'r']
  else if c = '\t' then ['\\', 't']
  else if c.toNat = 8 then ['\\', 'b']
  else if c.toNat = 12 then ['\\', 'f']
  else if c.toNat < 32 then '\\' :: 'u' :: hexDigits 4 c.toNat
  else [c]

def quote (s : String) : String :=
  String.ofList ('"' :: s.toList.flatMap escapeChar ++ ['"'])

mutual

def compact : Json → String
  | .null => "null"
  | .bool true => "true"
  | .bool false => "false"
  | .num n => n.text
  | .str s => quote s
  | .arr items => "[" ++ ",".intercalate (compactItems items) ++ "]"
  | .obj entries => "\x7b" ++ ",".intercalate (compactEntries entries) ++ "\x7d"

def compactItems : List Json → List String
  | [] => []
  | x :: rest => x.compact :: compactItems rest

def compactEntries : List (String × Json) → List String
  | [] => []
  | (k, x) :: rest => (quote k ++ ":" ++ x.compact) :: compactEntries rest

end

def indentation (level : Nat) : String :=
  String.ofList (List.replicate (2 * level) ' ')

def bracketed (level : Nat) (opening closing : String) (members : List String) : String :=
  if members.isEmpty then opening ++ closing
  else
    let inner := "\n" ++ indentation (level + 1)
    opening ++ inner ++ ("," ++ inner).intercalate members ++ "\n" ++ indentation level ++ closing

mutual

def prettyAt (level : Nat) : Json → String
  | .arr items => bracketed level "[" "]" (prettyItems (level + 1) items)
  | .obj entries => bracketed level "\x7b" "\x7d" (prettyEntries (level + 1) entries)
  | x => x.compact

def prettyItems (level : Nat) : List Json → List String
  | [] => []
  | x :: rest => prettyAt level x :: prettyItems level rest

def prettyEntries (level : Nat) : List (String × Json) → List String
  | [] => []
  | (k, x) :: rest => (quote k ++ ": " ++ prettyAt level x) :: prettyEntries level rest

end

def pretty (x : Json) : String := prettyAt 0 x

end CallContract.Json
