import MarkView.Markdown.Source
import MarkView.Tree.Kind
/-!
# Tables

A table starts with a row of headings and a line that rules them off. The ruling
line holds only bars, dashes, colons and blanks; it gives the number of columns
and how each is aligned, and the headings must be as many.
-/

namespace MarkView.Markdown

/-- The alignment of a column, one colon further along it. `fresh` tells whether
the column has had no dash or colon before. -/
def afterColon (fresh : Bool) : CellAlignment → CellAlignment
  | .none => if fresh then .left else .right
  | .left => if fresh then .left else .center
  | alignment => alignment

/-- What has been read of a ruling line: the columns before the present one, the
latest first, and the present one. -/
structure Ruling where
  columns : List CellAlignment := []
  current : CellAlignment := .none
  fresh : Bool := true
  dashed : Bool := false
  anyDash : Bool := false
  anyBar : Bool := false

/-- Read a ruling line from `i` on: the position after it and its columns. -/
def rulingRest? (s : Source) (fuel i : Nat) (r : Ruling) : Option (Nat × List CellAlignment) :=
  match fuel with
  | 0 => none
  | fuel + 1 =>
    match s.lineEnd? i with
    | some next =>
      if r.anyBar && r.anyDash then
        some (next, (if r.fresh then r.columns else r.current :: r.columns).reverse)
      else none
    | none =>
      if s.has i ' ' then rulingRest? s fuel (i + 1) r
      else if s.has i ':' then
        rulingRest? s fuel (i + 1) { r with current := afterColon r.fresh r.current, fresh := false }
      else if s.has i '-' then
        rulingRest? s fuel (i + 1) { r with fresh := false, dashed := true, anyDash := true }
      else if s.has i '|' && r.dashed then
        rulingRest? s fuel (i + 1)
          { columns := r.current :: r.columns, anyDash := true, anyBar := true }
      else none

/-- The ruling line at `i`, which is indented by less than four columns. -/
def ruling? (s : Source) (i : Nat) : Option (Nat × List CellAlignment) :=
  let first := s.skipWhile (· == ' ') i
  if 3 < first - i || s.stop ≤ first then none
  else if s.has first '|' then rulingRest? s s.fuel (first + 1) { anyBar := true }
  else rulingRest? s s.fuel first {}

/-- How many headings a line from `first` on has that holds `bars` bars, the last
of them at `lastBar`. -/
def headingCount (s : Source) (first bars lastBar : Nat) : Nat :=
  let bars := if s.has (s.skipBlanks first) '|' then bars - 1 else bars
  if s.isBlankLine (lastBar + 1) then bars else bars + 1

/-- Count the bars of the line from `i` on that no backslash precedes. The result
is their number, the position of the last, and the position of the next line. -/
def countBars (s : Source) (fuel i bars lastBar : Nat) (escaped : Bool) : Nat × Nat × Nat :=
  match fuel with
  | 0 => (bars, lastBar, i)
  | fuel + 1 =>
    match s.get? i with
    | none => (bars, lastBar, i)
    | some c =>
      if Source.isLineEnd c then (bars, lastBar, (s.lineEnd? i).getD i)
      else if c == '\\' then countBars s fuel (i + 1) bars lastBar true
      else if c == '|' && !escaped then countBars s fuel (i + 1) (bars + 1) i false
      else countBars s fuel (i + 1) bars lastBar false

end MarkView.Markdown
