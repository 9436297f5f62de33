import MarkView.Markdown.Source
import MarkView.Text.CaseFold
/-!
# Labels

A label names a link definition or a footnote: text between brackets, not all of
it white, without unescaped brackets inside. White space within counts as one
space, and labels match when they are equal up to letter case.
-/

namespace MarkView.Markdown

/-- The most characters, other than plain ASCII ones, that a label may have. -/
def maxLabel : Nat := 1000

/-- Where a run of white space in a label ends: the position, and whether the run
is anything but a single space. A run holds at most one line ending, after which
`lineStart` tells where the next line's own text begins. -/
def labelGap? (s : Source) (lineStart : Nat → Option Nat) (fuel i : Nat) (lineSeen wide : Bool) :
    Option (Nat × Bool) :=
  match fuel with
  | 0 => none
  | fuel + 1 =>
    match s.get? i with
    | none => some (i, wide)
    | some c =>
      if Source.isLineEnd c then
        if lineSeen then none
        else ((s.lineEnd? i).bind lineStart).bind fun next =>
          labelGap? s lineStart fuel next true true
      else if Source.isBlank c then
        let next := i + 1
        let more := s.test next Source.isWhite
        labelGap? s lineStart fuel next lineSeen (wide || c != ' ' || more)
      else some (i, wide)

/-- Read a label from `i` on up to its closing bracket. The result is the position
after the bracket and the text of the label. `mark` is where the part not yet
copied to `text` starts, `size` the characters counted so far. In a table the last
backslash before a bar belongs to the table. -/
def labelRest? (s : Source) (inTable : Bool) (lineStart : Nat → Option Nat)
    (fuel i mark size : Nat) (text : String) (white : Bool) : Option (Nat × String) :=
  match fuel with
  | 0 => none
  | fuel + 1 =>
    if maxLabel ≤ size then none
    else
      match s.get? i with
      | none => none
      | some c =>
        if c == '[' then none
        else if c == ']' then
          if white then none
          else
            let all := text ++ s.slice mark i
            some (i + 1, (all.trimAsciiStart.trimAsciiEnd).toString)
        else if c == '\\' then
          if inTable && s.has (i + 1) '|' then
            labelRest? s inTable lineStart fuel (i + 2) (i + 2) (size + 1)
              (text ++ s.slice mark i ++ "|") false
          else if inTable && s.has (i + 1) '\\' && s.has (i + 2) '|' then
            labelRest? s inTable lineStart fuel (i + 3) (i + 3) (size + 2)
              (text ++ s.slice mark i ++ "\\|") false
          else labelRest? s inTable lineStart fuel (i + 2) mark (size + 2) text false
        else if Source.isWhite c then
          (labelGap? s lineStart s.fuel i false false).bind fun (next, wide) =>
            if wide then
              labelRest? s inTable lineStart fuel next next (size + (next - i))
                (text ++ s.slice mark i ++ " ") white
            else labelRest? s inTable lineStart fuel next mark (size + 1) text white
        else
          labelRest? s inTable lineStart fuel (i + 1) mark
            (if c.toNat < 0x80 then size else size + c.utf8Size) text false

/-- Read a label whose text starts at `i`: the position after the closing bracket,
and its text with white space collapsed and trimmed. -/
def label? (s : Source) (inTable : Bool) (lineStart : Nat → Option Nat) (i : Nat) :
    Option (Nat × String) :=
  labelRest? s inTable lineStart s.fuel i i 0 "" true

/-- The form in which labels are compared. -/
def labelKey (label : String) : String := Text.foldCase label

end MarkView.Markdown
