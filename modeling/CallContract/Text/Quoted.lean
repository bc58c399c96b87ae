import CallContract.Text.Unprintable

/-!
# Text quoted in messages

Messages quote text so that every character can be told from any other: what
has no glyph of its own is written as its code point in hexadecimal.
-/

set_option autoImplicit false

namespace CallContract.Quoted

def codePoint (c : Char) : List Char :=
  '\\' :: 'u' :: '\x7b' :: Nat.toDigits 16 c.toNat ++ ['\x7d']

def char (c : Char) : List Char :=
  if c = '"' then ['\\', '"']
  else if c = '\\' then ['\\', '\\']
  else if c = '\n' then ['\\', 'n']
  else if c = '\r' then ['\\', 'r']
  else if c = '\t' then ['\\', 't']
  else if c.toNat = 0 then ['\\', '0']
  else if c.toNat < 0x20 || c.toNat = 0x7F then codePoint c
  else if c.toNat < 0x80 then [c]
  else if isUnprintable c.toNat then codePoint c
  else [c]

def text (s : String) : String :=
  String.ofList ('"' :: s.toList.flatMap char ++ ['"'])

end CallContract.Quoted
