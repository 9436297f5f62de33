import MarkView.Markdown.Source
/-!
# Indentation

Indentation is measured in columns. A space is one column and a tab reaches to
the next multiple of four, counted from the start of the line or from the tab
before it. A `Cursor` may stand inside a tab: `spare` columns of it are then
still to be read.
-/

namespace MarkView.Markdown

/-- A place in the indentation of a line. -/
structure Cursor where
  pos : Nat
  tabStart : Nat
  spare : Nat
  deriving Repr, Inhabited

namespace Cursor

/-- The place at position `i`, from which the columns of tabs are counted. -/
def start (i : Nat) : Cursor := ⟨i, i, 0⟩

/-- Read one column of indentation. -/
def column? (s : Source) (c : Cursor) : Option Cursor :=
  if c.spare > 0 then some { c with spare := c.spare - 1 }
  else if s.has c.pos ' ' then some { c with pos := c.pos + 1 }
  else if s.has c.pos '\t' then
    some ⟨c.pos + 1, c.pos + 1, 4 - (c.pos - c.tabStart) % 4 - 1⟩
  else none

/-- Read up to `n` columns. The result tells how many there were. -/
def columns (s : Source) : Nat → Cursor → Nat × Cursor
  | 0, c => (0, c)
  | n + 1, c =>
    match c.column? s with
    | some next =>
      let (k, last) := columns s n next
      (k + 1, last)
    | none => (0, c)

/-- Read up to `n` columns. -/
def skipColumns (s : Source) (n : Nat) (c : Cursor) : Cursor := (c.columns s n).2

/-- Read all indentation. -/
def skipIndent (s : Source) (c : Cursor) : Cursor :=
  { c with pos := s.skipWhile (fun c => c == ' ' || c == '\t') c.pos, spare := 0 }

/-- Whether the line ends here. -/
def atLineEnd (s : Source) (c : Cursor) : Bool := (s.lineEnd? c.pos).isSome

/-- Step over the character `ch`, if it stands here. -/
def skipChar? (s : Source) (ch : Char) (c : Cursor) : Option Cursor :=
  if s.has c.pos ch then some { c with pos := c.pos + 1 } else none

end Cursor

end MarkView.Markdown
