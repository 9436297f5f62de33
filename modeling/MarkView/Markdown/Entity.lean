import Std.Data.HashMap
import MarkView.Markdown.EntityTable
import MarkView.Markdown.Source
import MarkView.Text.Space
/-!
# Character references

A character reference stands for a character by its name or its number. A number
that is no character, and the number zero, stand for U+FFFD.
-/

namespace MarkView.Markdown

/-- The value of a digit in a base up to sixteen. -/
def digitValue? (base : Nat) (c : Char) : Option Nat :=
  let n := c.toNat
  let value :=
    if 0x30 ≤ n && n ≤ 0x39 then n - 0x30
    else if 0x41 ≤ n && n ≤ 0x46 then n - 0x41 + 10
    else if 0x61 ≤ n && n ≤ 0x66 then n - 0x61 + 10
    else base
  if value < base then some value else none

/-- Read up to `limit` digits from `i` on. The result is the position after them
and their value. -/
def readDigits (s : Source) (base : Nat) (limit i value : Nat) : Nat × Nat :=
  match limit with
  | 0 => (i, value)
  | limit + 1 =>
    match (s.get? i).bind (digitValue? base) with
    | some d => readDigits s base limit (i + 1) (value * base + d)
    | none => (i, value)

/-- The character with a given number. -/
def characterOfCode (n : Nat) : Char :=
  if n ≠ 0 && (n < 0xD800 || (0xE000 ≤ n && n < 0x110000)) then Char.ofNat n else '\uFFFD'

/-- The value of a written hexadecimal number. -/
def hexValue (s : String) : Nat :=
  s.toList.foldl (fun n c => n * 16 + (digitValue? 16 c).getD 0) 0

/-- The text that an entry of the table gives for its name. -/
def readEntry (entry : String) : String × String :=
  match entry.splitOn "=" with
  | [name, codes] =>
    (name, String.ofList ((codes.splitOn "+").map fun code => Char.ofNat (hexValue code)))
  | _ => (entry, "")

/-- The named character references, by name. -/
def entities : Std.HashMap String String :=
  Std.HashMap.ofList ((Text.words entityEntries.toList).map fun entry =>
    readEntry (String.ofList entry))

/-- The character reference at the `&` at position `i`: the position after it and
the text that it stands for. -/
def characterReference? (s : Source) (i : Nat) : Option (Nat × String) :=
  if s.has (i + 1) '#' then
    let hexadecimal := s.test (i + 2) fun c => c == 'x' || c == 'X'
    let first := if hexadecimal then i + 3 else i + 2
    let (next, value) :=
      if hexadecimal then readDigits s 16 6 first 0 else readDigits s 10 7 first 0
    if next == first || !s.has next ';' then none
    else some (next + 1, (characterOfCode value).toString)
  else
    let next := s.skipWhile Char.isAlphanum (i + 1)
    if s.has next ';' then (entities[s.slice (i + 1) next]?).map fun text => (next + 1, text)
    else none

end MarkView.Markdown
