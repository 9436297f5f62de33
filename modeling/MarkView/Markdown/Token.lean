import MarkView.Markdown.Container
import MarkView.Markdown.Entity
import MarkView.Markdown.Table
import MarkView.Text.Space
/-!
# Tokens of running text

A line of running text is cut into tokens: stretches of plain text, and the
characters that may turn out to mean something once the whole block is known.
Escapes and character references are settled here; a backslash that escapes a
character belongs to no token.
-/

namespace MarkView.Markdown

/-- What a token is. A run of delimiters may open emphasis, close it, or both;
`escaped` tells that a backslash stands before the first of some backticks. -/
inductive TokenKind
  | text
  | literal (value : String)
  | softBreak
  | hardBreak
  | backticks (count : Nat) (escaped : Bool)
  | lessThan
  | linkOpen
  | imageOpen
  | bracketClose
  | run (mark : Char) (count : Nat) (canOpen canClose : Bool)
  deriving Repr, Inhabited

/-- A token with the part of the source that it takes up. -/
structure Token where
  start : Nat
  stop : Nat
  kind : TokenKind
  deriving Repr, Inhabited

/-- Add the stretch of plain text between two positions, unless it is empty. -/
def addText (tokens : Array Token) (i j : Nat) : Array Token :=
  if i < j then tokens.push ⟨i, j, .text⟩ else tokens

/-- How a line is read: as one that may turn out to be the head of a table, as a
cell of a table, or as neither. -/
inductive LineMode
  | mayBeHead
  | cell
  | plain
  deriving DecidableEq, Repr, Inhabited

/-- How a line ends: at the end of the text or of a cell, at a soft or a hard line
break, or as the head of a table. -/
inductive LineBreak
  | none
  | soft (start : Nat)
  | hard (start : Nat) (backslash : Bool)
  | table (alignments : List CellAlignment)
  deriving Repr, Inhabited

/-! ## Delimiter runs -/

/-- Whether a bar that no backslash escapes stands directly before `i`. -/
def barBefore (s : Source) (i : Nat) : Bool := s.has (i - 1) '|' && !s.has (i - 2) '\\'

/-- Whether a run of `count` delimiters `mark` at `i` may open emphasis, on a line
that starts at `first`. -/
def runCanOpen (s : Source) (mode : LineMode) (first i : Nat) (mark : Char) (count : Nat) : Bool :=
  match s.get? (i + count), s.get? (i - 1) with
  | some next, some previous =>
    if Text.isSpace next then false
    else if i == first then true
    else if mode == .cell && barBefore s i then true
    else if mode == .cell && next == '|' then false
    else if mark == '*' && !Text.isPunctuation next then true
    else if mark == '~' && (1 < count || (previous == '~' && !Text.isPunctuation next)) then true
    else Text.isSpace previous || Text.isPunctuation previous
  | some next, none => !Text.isSpace next
  | none, _ => false

/-- Whether a run of `count` delimiters `mark` at `i` may close emphasis, on a line
that starts at `first`. -/
def runCanClose (s : Source) (mode : LineMode) (first i : Nat) (mark : Char) (count : Nat) : Bool :=
  if i == first then false
  else
    match s.get? (i - 1) with
    | none => false
    | some previous =>
      if Text.isSpace previous then false
      else
        match s.get? (i + count) with
        | none => true
        | some next =>
          if mode == .cell && barBefore s i then false
          else if mode == .cell && next == '|' then true
          else if (mark == '*' || (mark == '~' && 1 < count)) && !Text.isPunctuation previous then
            true
          else if mark == '~' && previous == '~' then true
          else Text.isSpace next || Text.isPunctuation next

/-! ## Lines -/

/-- What stays the same while a line is read. `strikethrough` tells whether tildes
are delimiters. -/
structure LineContext where
  source : Source
  containers : Array Container
  strikethrough : Bool
  mode : LineMode
  first : Nat

/-- The columns of the table whose head a line is that holds `bars` bars and ends
before `next`, with the position after its ruling line. -/
def LineContext.table? (ctx : LineContext) (bars lastBar next : Nat) :
    Option (List CellAlignment × Nat) :=
  let s := ctx.source
  if ctx.mode == .mayBeHead && 0 < bars then
    let (matched, place) := continued s ctx.containers next
    if matched == ctx.containers.size then
      (ruling? s place.pos).bind fun (stop, columns) =>
        if columns.length == headingCount s ctx.first bars lastBar then some (columns, stop)
        else none
    else none
  else none

/-- Read a line from position `i` on, where the plain text not yet added starts at
`text`, and `bars` bars were met, the last of them at `lastBar`. The result is the
tokens, the position of the next line or of the end of the cell, and how the line
ends. -/
def scanLine (ctx : LineContext) (fuel i text bars lastBar : Nat) (tokens : Array Token) :
    Array Token × Nat × LineBreak :=
  match fuel with
  | 0 => (tokens, i, .none)
  | fuel + 1 =>
    let s := ctx.source
    let atEnd : Array Token × Nat × LineBreak :=
      (addText tokens text (i - s.countBefore Source.isBlank text i), i, .none)
    match s.get? i with
    | none => atEnd
    | some c =>
      if Source.isLineEnd c then
        if ctx.mode == .cell then atEnd
        else
          let next := (s.lineEnd? i).getD i
          if s.countBefore (· == '\\') ctx.first i % 2 == 1 && next < s.stop then
            (addText tokens text (i - 1), next, .hard (i - 1) true)
          else
            match ctx.table? bars lastBar next with
            | some (columns, stop) => (tokens, stop, .table columns)
            | none =>
              let blanks := s.countBefore Source.isBlank ctx.first i
              let tokens := addText tokens text (i - blanks)
              if 2 ≤ blanks then (tokens, next, .hard (i - blanks) false)
              else (tokens, next, .soft i)
      else if c == '\\' then
        if s.test (i + 1) Text.isAsciiPunctuation then
          let tokens := addText tokens text i
          if s.has (i + 1) '\x60' then
            let stop := s.skipWhile (· == '\x60') (i + 1)
            let token : Token := ⟨i + 1, stop, .backticks (stop - (i + 1)) true⟩
            scanLine ctx fuel stop stop bars lastBar (tokens.push token)
          else if ctx.mode == .cell && s.has (i + 1) '\\' && s.has (i + 2) '|' then
            scanLine ctx fuel (i + 3) (i + 2) bars lastBar tokens
          else scanLine ctx fuel (i + 2) (i + 1) bars lastBar tokens
        else scanLine ctx fuel (i + 1) text bars lastBar tokens
      else if c == '*' || c == '_' || (c == '~' && ctx.strikethrough) then
        let stop := s.skipWhile (· == c) i
        let count := stop - i
        let canOpen := runCanOpen s ctx.mode ctx.first i c count
        let canClose := runCanClose s ctx.mode ctx.first i c count
        if (canOpen || canClose) && (c != '~' || count ≤ 2) then
          let token : Token := ⟨i, stop, .run c count canOpen canClose⟩
          scanLine ctx fuel stop stop bars lastBar ((addText tokens text i).push token)
        else scanLine ctx fuel stop text bars lastBar tokens
      else if c == '\x60' then
        let stop := s.skipWhile (· == c) i
        let token : Token := ⟨i, stop, .backticks (stop - i) false⟩
        scanLine ctx fuel stop stop bars lastBar ((addText tokens text i).push token)
      else if c == '<' && !s.has (i + 1) '\\' then
        scanLine ctx fuel (i + 1) (i + 1) bars lastBar
          ((addText tokens text i).push ⟨i, i + 1, .lessThan⟩)
      else if c == '!' && s.has (i + 1) '[' then
        scanLine ctx fuel (i + 2) (i + 2) bars lastBar
          ((addText tokens text i).push ⟨i, i + 2, .imageOpen⟩)
      else if c == '[' then
        scanLine ctx fuel (i + 1) (i + 1) bars lastBar
          ((addText tokens text i).push ⟨i, i + 1, .linkOpen⟩)
      else if c == ']' then
        scanLine ctx fuel (i + 1) (i + 1) bars lastBar
          ((addText tokens text i).push ⟨i, i + 1, .bracketClose⟩)
      else if c == '&' then
        match characterReference? s i with
        | some (stop, value) =>
          scanLine ctx fuel stop stop bars lastBar
            ((addText tokens text i).push ⟨i, stop, .literal value⟩)
        | none => scanLine ctx fuel (i + 1) text bars lastBar tokens
      else if c == '|' && !(0 < i && s.has (i - 1) '\\') then
        if ctx.mode == .cell then atEnd
        else scanLine ctx fuel (i + 1) text (bars + 1) i tokens
      else scanLine ctx fuel (i + 1) text bars lastBar tokens

/-- Read a line from position `i` on, and add its tokens to those given. -/
def readLine (s : Source) (containers : Array Container) (strikethrough : Bool) (mode : LineMode)
    (i : Nat) (tokens : Array Token) : Array Token × Nat × LineBreak :=
  scanLine ⟨s, containers, strikethrough, mode, i⟩ s.fuel i i 0 i tokens

end MarkView.Markdown
