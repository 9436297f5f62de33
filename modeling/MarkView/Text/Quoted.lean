import MarkView.Text.Hidden
/-!
# Quoted text

A text between double quotes on one line, in which every character can be told.
The quote and the backslash are marked by a backslash, four control characters
have short forms, and every other hidden character is written as its code point
in hexadecimal.
-/

namespace MarkView.Text

/-- A code point in hexadecimal, in small letters without leading zeros. -/
def hex (n : Nat) : List Char := Nat.toDigits 16 n

/-- The written form of one character. -/
def quoteChar (c : Char) : List Char :=
  if c = '"' then ['\\', '"']
  else if c = '\\' then ['\\', '\\']
  else if c = '\x00' then ['\\', '0']
  else if c = '\t' then ['\\', 't']
  else if c = '\r' then ['\\', 'r']
  else if c = '\n' then ['\\', 'n']
  else if isHidden c then '\\' :: 'u' :: '\x7b' :: hex c.toNat ++ ['\x7d']
  else [c]

/-- The quoted form of a text. -/
def quote (s : String) : String :=
  String.ofList ('"' :: s.toList.flatMap quoteChar ++ ['"'])

end MarkView.Text
