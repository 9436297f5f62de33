import MarkView.Markdown.Entity
/-!
# Link destinations

A destination stands between angle brackets, or is a run of characters without
white space in which parentheses are balanced. A backslash before punctuation
takes away its meaning, and character references stand for their characters.
-/

namespace MarkView.Markdown

/-- How deep parentheses may nest in a destination. -/
def maxParentheses : Nat := 33

/-- Whether a backslash at `i` takes away the meaning of the next character. -/
def escapesNext (s : Source) (i : Nat) : Bool :=
  s.has i '\\' && s.test (i + 1) Text.isAsciiPunctuation

/-- The end of a destination in angle brackets, from `i` on: the position of the
closing one. -/
def pointyEnd? (s : Source) (fuel i : Nat) : Option Nat :=
  match fuel with
  | 0 => none
  | fuel + 1 =>
    match s.get? i with
    | none => none
    | some c =>
      if Source.isLineEnd c || c == '<' then none
      else if c == '>' then some i
      else pointyEnd? s fuel (if escapesNext s i then i + 2 else i + 1)

/-- The end of a bare destination, from `i` on, with `nest` parentheses open. -/
def bareEnd? (s : Source) (fuel i nest : Nat) : Option Nat :=
  match fuel with
  | 0 => none
  | fuel + 1 =>
    let ended := if nest = 0 then some i else none
    match s.get? i with
    | none => ended
    | some c =>
      if c.toNat ≤ 0x20 then ended
      else if c == '(' then
        if maxParentheses ≤ nest then none else bareEnd? s fuel (i + 1) (nest + 1)
      else if c == ')' then
        if nest = 0 then some i else bareEnd? s fuel (i + 1) (nest - 1)
      else bareEnd? s fuel (if escapesNext s i then i + 2 else i + 1) nest

/-- The destination at `i`: the position after it, and where its text starts and
ends. A bare destination may be empty. -/
def destination? (s : Source) (i : Nat) : Option (Nat × Nat × Nat) :=
  if s.has i '<' then
    (pointyEnd? s s.fuel (i + 1)).map fun last => (last + 1, i + 1, last)
  else (bareEnd? s s.fuel i 0).map fun last => (last, i, last)

/-- Resolve escapes and character references from `i` on. In a table cell a
backslash before a bar belongs to the table, so that two of them before a bar
leave the bar alone. -/
def unescapeFrom (s : Source) (inTable : Bool) (fuel i : Nat) (text : String) : String :=
  match fuel with
  | 0 => text
  | fuel + 1 =>
    match s.get? i with
    | none => text
    | some c =>
      if c == '\\' && inTable && s.has (i + 1) '\\' && s.has (i + 2) '|' then
        unescapeFrom s inTable fuel (i + 3) (text.push '|')
      else if escapesNext s i then
        unescapeFrom s inTable fuel (i + 2) (text ++ s.slice (i + 1) (i + 2))
      else if c == '&' then
        match characterReference? s i with
        | some (next, value) => unescapeFrom s inTable fuel next (text ++ value)
        | none => unescapeFrom s inTable fuel (i + 1) (text.push c)
      else if c == '\r' then unescapeFrom s inTable fuel (i + 1) text
      else unescapeFrom s inTable fuel (i + 1) (text.push c)

/-- The text between two positions with escapes and character references
resolved. -/
def unescape (s : Source) (inTable : Bool) (first last : Nat) : String :=
  unescapeFrom (s.upTo last) inTable s.fuel first ""

end MarkView.Markdown
