import MarkView.Markdown.BlockState
import MarkView.Markdown.Destination
/-!
# Link definitions

A link definition gives a label a destination and perhaps a title. It may run over
several lines, as long as none of them starts a block that would end a paragraph.
-/

namespace MarkView.Markdown

namespace BlockState

/-- Where the text of the next line of a label starts, if the label goes on there. -/
def labelLine? (b : BlockState) (i : Nat) : Option Nat :=
  let (matched, place) := continued b.source b.containers i
  if b.endsParagraph matched place.pos ||
      (matched == b.containers.size && (underline? b.source place.pos).isSome) then none
  else some place.pos

/-- The place of the next line after up to four columns of indentation, if a
definition goes on there. -/
def definitionLine? (b : BlockState) (i : Nat) : Option Cursor :=
  let (_, place, ends) := b.paragraphLine i
  let (found, _) := (continued b.source b.containers i).2.columns b.source 4
  if ends || (found < 4 && (underline? b.source place.pos).isSome) then none else some place

/-- Skip white space with at most one line ending. The result is the position and
the number of line endings. -/
def definitionSpace? (b : BlockState) (fuel i lines : Nat) : Option (Nat × Nat) :=
  match fuel with
  | 0 => none
  | fuel + 1 =>
    let i := b.source.skipBlanks i
    match b.source.lineEnd? i with
    | none => some (i, lines)
    | some next =>
      if 0 < lines then none
      else (b.definitionLine? next).bind fun place => b.definitionSpace? fuel place.pos (lines + 1)

/-- Read a title up to its closing `quote`: the position after it, and the text,
with the indentation of its lines left out. -/
def titleRest? (b : BlockState) (quote : Char) (fuel i mark : Nat) (text : String) :
    Option (Nat × String) :=
  match fuel with
  | 0 => none
  | fuel + 1 =>
    let s := b.source
    match s.get? i with
    | none => none
    | some c =>
      if c == '(' && quote == ')' then none
      else if Source.isLineEnd c then
        ((s.lineEnd? i).bind b.definitionLine?).bind fun place =>
          let next := (place.skipIndent s).pos
          b.titleRest? quote fuel next next ((text ++ s.slice mark i).push '\n')
      else if c == '\\' then
        b.titleRest? quote fuel
          (if s.test (i + 1) (!Source.isLineEnd ·) then i + 2 else i + 1) mark text
      else if c == quote then some (i + 1, text ++ s.slice mark i)
      else b.titleRest? quote fuel (i + 1) mark text

/-- The title at `i`, with escapes and character references resolved. -/
def title? (b : BlockState) (i : Nat) : Option (Nat × String) :=
  let s := b.source
  let read (quote : Char) :=
    (b.titleRest? quote s.fuel (i + 1) (i + 1) "").map fun (next, text) =>
      let title := Source.ofString text
      (next, unescape title false 0 title.stop)
  if s.has i '"' then read '"'
  else if s.has i '\'' then read '\''
  else if s.has i '(' then read ')'
  else none

/-- What a definition gives its label, from the position after the colon on. A
title on a line of its own that turns out to be none does not spoil the definition. -/
def linkTarget? (b : BlockState) (i : Nat) : Option (Nat × LinkTarget) :=
  let s := b.source
  (b.definitionSpace? s.fuel i 0).bind fun (first, _) =>
    (destination? s first).bind fun (last, urlStart, urlStop) =>
      if last == first then none
      else
        let url := unescape s false urlStart urlStop
        let untitled := some (last, (⟨url, ""⟩ : LinkTarget))
        match b.definitionSpace? s.fuel last 0 with
        | none => untitled
        | some (next, lines) =>
          if next == last && lines == 0 then none
          else
            match b.title? next with
            | some (stop, title) =>
              if s.isBlankLine stop then some (stop, ⟨url, title⟩)
              else if 0 < lines then untitled else none
            | none => if 0 < lines then untitled else none

/-- The link definition at `i`: the position after it, its label and target. -/
def linkDefinition? (b : BlockState) (i : Nat) : Option (Nat × String × LinkTarget) :=
  let s := b.source
  if s.has i '[' then
    (label? s false b.labelLine? (i + 1)).bind fun (next, label) =>
      if s.has next ':' then
        (b.linkTarget? (next + 1)).map fun (stop, target) => (stop, label, target)
      else none
  else none

/-- Record a link definition. The first definition of a label stands. -/
def defineLink (b : BlockState) (label : String) (target : LinkTarget) : BlockState :=
  { b with targets := b.targets.insertIfNew (labelKey label) target }

end BlockState

end MarkView.Markdown
