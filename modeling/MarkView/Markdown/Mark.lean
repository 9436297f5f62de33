import MarkView.Markdown.Container
import MarkView.Markdown.Entity
import MarkView.Markdown.RawHtml
import MarkView.Tree.Event
/-!
# Marks at the start of a block

What the first characters of a line, after its containers and indentation, say
about the block that starts there: thematic breaks, headings and their
underlines, fences, items of lists, definitions and alerts.
-/

namespace MarkView.Markdown

/-- Read the characters of a thematic break made of `mark`, of which `count` have
been read: the position after the line, if at least three stand on it alone. -/
def thematicRest? (s : Source) (mark : Char) (fuel i count : Nat) : Option Nat :=
  match fuel with
  | 0 => none
  | fuel + 1 =>
    match s.lineEnd? i with
    | some next => if 3 ≤ count then some next else none
    | none =>
      if s.has i mark then thematicRest? s mark fuel (i + 1) (count + 1)
      else if s.has i ' ' || s.has i '\t' then thematicRest? s mark fuel (i + 1) count
      else none

/-- The position after the thematic break at `i`, if one is there. -/
def thematicBreak? (s : Source) (i : Nat) : Option Nat :=
  if s.has i '*' then thematicRest? s '*' s.fuel i 0
  else if s.has i '-' then thematicRest? s '-' s.fuel i 0
  else if s.has i '_' then thematicRest? s '_' s.fuel i 0
  else none

/-- The level of the heading whose opening signs stand at `i`. -/
def headingLevel? (s : Source) (i : Nat) : Option Nat :=
  let next := s.skipWhile (· == '#') i
  let level := next - i
  if 1 ≤ level && level ≤ 6 && (!(decide (next < s.stop)) || s.test next Source.isWhite) then
    some level
  else none

/-- The level and the end of the heading underline at `i`. -/
def underline? (s : Source) (i : Nat) : Option (Nat × Nat) :=
  if s.has i '=' then (s.blankLine? (s.skipWhile (· == '=') i)).map (1, ·)
  else if s.has i '-' then (s.blankLine? (s.skipWhile (· == '-') i)).map (2, ·)
  else none

/-- The opening fence of a code block: its character and length. -/
def fence? (s : Source) (i : Nat) : Option (Char × Nat) :=
  if s.has i '~' then
    let next := s.skipWhile (· == '~') i
    if 3 ≤ next - i then some ('~', next - i) else none
  else if s.has i '\x60' then
    let next := s.skipWhile (· == '\x60') i
    let clear := s.skipWhile (fun c => c != '\x60' && c != '\n') next
    if 3 ≤ next - i && !s.has clear '\x60' then some ('\x60', next - i) else none
  else none

/-- The position after the closing fence at `i`, for a block whose opening fence
is `length` times `mark`. The end of the text closes every block. -/
def closingFence? (s : Source) (mark : Char) (length i : Nat) : Option Nat :=
  if s.stop ≤ i then some i
  else
    let next := s.skipWhile (· == mark) i
    let clear := s.skipWhile (· == ' ') next
    if length ≤ next - i && (s.lineEnd? clear).isSome then some clear else none

/-- The mark of a list item: its last character, its number, and the indentation
that the content of the item will have. -/
structure ItemMark where
  marker : Char
  number : Nat
  indent : Nat

/-- The indentation of the content after a mark that takes `width` columns, with
the place where the content starts. Content indented by five columns or more
starts one column after the mark, with an indented code block. -/
def contentIndent (s : Source) (width : Nat) (c : Cursor) : Nat × Cursor :=
  if s.isBlankLine c.pos then (width, c)
  else
    let (found, next) := c.columns s 4
    if found < 4 then (width + found, next) else (width, c)

/-- Step over the one column that separates a mark from what follows it, or find
the end of the line there. -/
def afterMark? (s : Source) (c : Cursor) : Option Cursor :=
  match c.column? s with
  | some next => some next
  | none => if c.atLineEnd s then some c else none

/-- The mark of a list item at `c`, which is indented by `outer` columns. -/
def itemMark? (s : Source) (outer : Nat) (c : Cursor) : Option (ItemMark × Cursor) :=
  match s.get? c.pos with
  | none => none
  | some ch =>
    if ch == '-' || ch == '+' || ch == '*' then
      if (thematicBreak? s c.pos).isSome then none
      else
        (afterMark? s { c with pos := c.pos + 1 }).map fun next =>
          let (indent, content) := contentIndent s (outer + 2) next
          (⟨ch, 0, indent⟩, content)
    else if ch.isDigit then
      let (next, number) := readDigits s 10 9 c.pos 0
      match s.get? next with
      | some mark =>
        if mark == '.' || mark == ')' then
          (afterMark? s { c with pos := next + 1 }).map fun after =>
            let (indent, content) := contentIndent s (outer + 2 + (next - c.pos)) after
            (⟨mark, number, indent⟩, content)
        else none
      | none => none
    else none

/-- Whether a list item starts at `i` that may end a paragraph. Within the
paragraph's own containers this takes content, and for a numbered item the number
one. -/
def itemInterrupts (s : Source) (anyItem : Bool) (i : Nat) : Bool :=
  match s.get? i with
  | none => false
  | some ch =>
    if ch == '-' || ch == '+' || ch == '*' then
      let after := s.lineEnd? (i + 1)
      (after.isSome || s.has (i + 1) ' ' || s.has (i + 1) '\t') &&
        (anyItem || !s.isBlankLine (i + 1))
    else if ch.isDigit then
      let (next, number) := readDigits s 10 9 i 0
      (s.has next '.' || s.has next ')') &&
        ((s.lineEnd? (next + 1)).isSome || s.has (next + 1) ' ' || s.has (next + 1) '\t') &&
        (anyItem || (number == 1 && !s.isBlankLine (next + 1)))
    else false

/-- The check box at the start of an item's content: whether it is checked, and
the place after it. -/
def checkBox? (s : Source) (c : Cursor) : Option (Bool × Cursor) :=
  let start := c.skipColumns s 3
  if s.has start.pos '[' && s.has (start.pos + 2) ']' &&
      (s.test (start.pos + 3) Source.isWhite) then
    match s.get? (start.pos + 1) with
    | some ch =>
      if Source.isBlank ch then some (false, { start with pos := start.pos + 3 })
      else if ch == 'x' || ch == 'X' then some (true, { start with pos := start.pos + 3 })
      else none
    | none => none
  else none

/-- The mark of a definition at `c`, which is indented by `outer` columns: the
indentation of its content, and the place where that starts. -/
def definitionMark? (s : Source) (outer : Nat) (c : Cursor) : Option (Nat × Cursor) :=
  ((c.skipChar? s ':').bind (afterMark? s)).map (contentIndent s (outer + 2))

/-- The names of the alerts that a block quote may be marked as. -/
def alertNames : List (Alert × List Char) :=
  [(.note, "note".toList), (.tip, "tip".toList), (.important, "important".toList),
    (.warning, "warning".toList), (.caution, "caution".toList)]

/-- The alert mark that fills the rest of the line from `i` on, with the position
after the line. -/
def alertMark? (s : Source) (i : Nat) : Option (Alert × Nat) :=
  if s.has i '[' && s.has (i + 1) '!' then
    alertNames.findSome? fun (alert, name) =>
      let next := i + 2 + name.length
      if hasWordIgnoringCase s (i + 2) name && s.has next ']' then
        (s.blankLine? (next + 1)).map (alert, ·)
      else none
  else none

end MarkView.Markdown
