import MarkView.Markdown.LinkDefinition
/-!
# Blocks

Each step of the analysis takes the text from the start of a line, closes the
containers that the line does not continue, opens those that start on it, and
reads the block whose text comes next, which may take further lines.
-/

namespace MarkView.Markdown

namespace BlockState

/-! ## Code and raw HTML -/

/-- The text of a line of code between two positions, with its line ending as a
line feed. -/
def codeLine (s : Source) (i j : Nat) : String :=
  if 2 ≤ j && s.has (j - 2) '\r' && s.test (j - 1) (·.toNat < 0x80) then
    s.slice i (j - 2) ++ s.slice (j - 1) j
  else s.slice i j

/-- A number of spaces. -/
def spaces (n : Nat) : String := String.ofList (List.replicate n ' ')

/-- Read the lines of an indented code block from `place` on, after some that read
`text`; `kept` is as much of that as ends in a line that is not blank. The result
is the kept text and the position of the next line. -/
def indentedLines (b : BlockState) (fuel : Nat) (place : Cursor) (blank : Bool)
    (text kept : String) : String × Nat × Bool :=
  match fuel with
  | 0 => (kept, place.pos, blank)
  | fuel + 1 =>
    let s := b.source
    let next := s.nextLine place.pos
    let text := text ++ spaces place.spare ++ codeLine s place.pos next
    let kept := if blank then kept else text
    let (matched, outer) := continued s b.containers next
    let (found, inner) := outer.columns s 4
    if matched < b.containers.size || (found < 4 && !inner.atLineEnd s) || s.stop ≤ inner.pos then
      (kept, next, blank)
    else b.indentedLines fuel inner (s.isBlankLine inner.pos) text kept

/-- The events of a code block. -/
def codeEvents (info : Option String) (text : String) : List Event :=
  .start (.codeBlock info) :: (if text.isEmpty then [] else [.text text]) ++ [.stop .codeBlock]

/-- Read an indented code block whose first line goes on at `place`. -/
def indentedCode (b : BlockState) (place : Cursor) : BlockState × Nat :=
  let (text, next, blank) := b.indentedLines b.source.fuel place false "" ""
  ({ (b.emit (codeEvents none text)).setLatest .other with blankBefore := blank }, next)

/-- Read the lines of a fenced code block from `i` on, up to its closing fence or
the end of a container. -/
def fencedLines (b : BlockState) (mark : Char) (length indent fuel i : Nat) (text : String) :
    String × Nat :=
  match fuel with
  | 0 => (text, i)
  | fuel + 1 =>
    let s := b.source
    let (matched, outer) := continued s b.containers i
    if matched < b.containers.size then (text, i)
    else
      let line := outer.skipColumns s indent
      let (found, closing) := line.columns s (4 - indent)
      match if found < 4 - indent then closingFence? s mark length closing.pos else none with
      | some stop => (text, (s.blankLine? stop).getD stop)
      | none =>
        let next := s.nextLine line.pos
        b.fencedLines mark length indent fuel next
          (text ++ spaces line.spare ++ codeLine s line.pos next)

/-- Read a fenced code block whose opening fence stands at `i`. -/
def fencedCode (b : BlockState) (mark : Char) (length indent i : Nat) : BlockState × Nat :=
  let s := b.source
  let info := s.skipBlanks (i + length)
  let first := s.nextLine info
  let infoStop := first - s.countBefore Source.isWhite info first
  let (text, next) := b.fencedLines mark length indent s.fuel first ""
  ((b.emit (codeEvents (some (unescape s false info infoStop)) text)).setLatest .other, next)

/-- The events of a line of raw HTML. Indentation before it is text. -/
def rawLine (s : Source) (indent i j : Nat) : List Event :=
  (if indent = 0 then [] else [.text (spaces indent)]) ++ [.html (codeLine s i j)]

/-- Whether `word` stands somewhere between two positions. -/
def contains (s : Source) (word : List Char) (i j : Nat) : Bool :=
  match word with
  | [] => true
  | c :: _ => (afterWord? (s.upTo j) c word s.fuel i).isSome

/-- Read the lines of a block of raw HTML from `i` on. The result is their events,
the latest first, and the position of the next line. -/
def rawLines (b : BlockState) (stop : RawEnd) (fuel indent i : Nat) (events : List Event) :
    List Event × Nat :=
  match fuel with
  | 0 => (events, i)
  | fuel + 1 =>
    let s := b.source
    let next := s.nextLine i
    let events := (rawLine s indent i next).reverse ++ events
    let (matched, place) := continued s b.containers next
    let ends :=
      match stop with
      | .text word => contains s word i next
      | .blankLine => s.isBlankLine place.pos
    if matched < b.containers.size || ends || s.stop ≤ place.pos then (events, next)
    else b.rawLines stop fuel place.spare place.pos events

/-- Read a block of raw HTML that starts at `i`. -/
def rawHtml (b : BlockState) (stop : RawEnd) (indent i : Nat) : BlockState × Nat :=
  let (events, next) := b.rawLines stop b.source.fuel indent i []
  ((b.emit (.start .htmlBlock :: events.reverse ++ [.stop .htmlBlock])).setLatest .other, next)

/-! ## Headings and tables -/

/-- Where the text of a heading between two positions ends, once closing signs and
the spaces around them are left out. -/
def headingStop (s : Source) (first last : Nat) : Nat :=
  let limit := last - s.countBefore (fun c => c == ' ' || Source.isLineEnd c) first last
  let closer := limit - s.countBefore (· == '#') first limit
  if closer == first then first
  else
    let before := s.countBefore (· == ' ') first closer
    if 0 < before then closer - before else limit

/-- Cut the last token of a heading where the text of the heading ends. A heading
that this leaves without text has no token. -/
def cutHeading (first limit : Nat) (tokens : Array Token) : Array Token :=
  match tokens.back? with
  | some token =>
    if limit == first then #[]
    else tokens.pop.push { token with stop := min token.stop limit }
  | none => tokens

/-- Read a heading with opening signs at `i`. -/
def heading (b : BlockState) (level i : Nat) : BlockState × Nat :=
  let s := b.source
  let first := s.skipBlanks (i + level)
  let (tokens, next, lineBreak) := readLine s b.containers b.gfm .plain first #[]
  let tokens :=
    match lineBreak with
    | .hard start true => addText tokens start (start + 1)
    | _ => tokens
  let tokens := cutHeading first (headingStop s first next) tokens
  ((b.addLeaf [.event (.start (.heading level))] ⟨tokens, next, b.containers, false⟩
    [.event (.stop .heading)]).setLatest .other, next)

/-- Read the cells of a row from `i` on. -/
def rowCells (b : BlockState) (fuel i : Nat) (cells : Array Leaf) : Array Leaf × Nat :=
  match fuel with
  | 0 => (cells, i)
  | fuel + 1 =>
    let s := b.source
    let first := s.skipBlanks (if s.has i '|' then i + 1 else i)
    match s.lineEnd? first with
    | some next => (cells, next)
    | none =>
      let (tokens, next, _) := readLine s b.containers b.gfm .cell first #[]
      b.rowCells fuel next (cells.push ⟨tokens, next, b.containers, true⟩)

/-- The entries of a row of a table. -/
def rowEntries (tag : Tag) (columns : Nat) (cells : Array Leaf) : List Entry :=
  .event (.start tag) ::
    ((cells.toList.take columns).flatMap fun leaf =>
      [Entry.event (.start .tableCell), .leaf leaf, .event (.stop .tableCell)]) ++
    ((List.replicate (columns - cells.size)
      [Entry.event (.start .tableCell), .event (.stop .tableCell)]).flatten) ++
    [.event (.stop tag.name)]

/-- The most cells that are added to the rows of a table for want of them. -/
def maxMissingCells : Nat := 262144

/-- Read the rows of a table from `i` on, of which `missing` cells so far had to be
added. -/
def tableRows (b : BlockState) (columns fuel i missing : Nat) : BlockState × Nat :=
  match fuel with
  | 0 => (b, i)
  | fuel + 1 =>
    let s := b.source
    let (matched, outer) := continued s b.containers i
    let place := outer.skipIndent s
    if matched < b.containers.size || b.startsBlock true matched place.pos then (b, i)
    else
      let (cells, next) := b.rowCells s.fuel place.pos #[]
      let missing := missing + (columns - cells.size)
      if cells.isEmpty || maxMissingCells < missing then (b, i)
      else (b.add (rowEntries .tableRow columns cells)).tableRows columns fuel next missing

/-- Read a table whose head stands at `i` and whose rows start at `next`. A pending
task marker is lost. -/
def table (b : BlockState) (alignments : List CellAlignment) (i next : Nat) :
    BlockState × Nat :=
  let columns := alignments.length
  let (cells, _) := b.rowCells b.source.fuel i #[]
  let b := { b with task := none }.emit [.start (.table alignments)]
  let b := b.add (rowEntries .tableHead columns cells)
  let (b, stop) := b.tableRows columns b.source.fuel next 0
  ((b.emit [.stop .table]).setLatest .other, stop)

/-! ## Paragraphs -/

/-- What the lines of a paragraph turn out to be. -/
inductive ParagraphShape
  | text (tokens : Array Token)
  | heading (level : Nat) (tokens : Array Token)
  | table (alignments : List CellAlignment)

/-- The token of a line break that more text follows. -/
def breakToken (next : Nat) : LineBreak → Option Token
  | .soft start => some ⟨start, next, .softBreak⟩
  | .hard start _ => some ⟨start, next, .hardBreak⟩
  | _ => none

/-- A backslash at the end of a line that no text follows is text. -/
def lastBackslash (tokens : Array Token) : LineBreak → Array Token
  | .hard start true => addText tokens start (start + 1)
  | _ => tokens

/-- Read the lines of a paragraph from `i` on. The result is what they turn out to
be, and the position of the next line. -/
def paragraphLines (b : BlockState) (fuel i : Nat) (mode : LineMode) (tokens : Array Token) :
    ParagraphShape × Nat :=
  match fuel with
  | 0 => (.text tokens, i)
  | fuel + 1 =>
    let s := b.source
    let (tokens, next, lineBreak) := readLine s b.containers b.gfm mode i tokens
    match lineBreak with
    | .table alignments => (.table alignments, next)
    | _ =>
      let (matched, outer) := continued s b.containers next
      let (found, place) := outer.columns s 4
      let underline :=
        if found < 4 && matched == b.containers.size then underline? s place.pos else none
      match underline with
      | some (level, stop) => (.heading level (lastBackslash tokens lineBreak), stop)
      | none =>
        let text := place.skipIndent s
        if (found < 4 && b.endsParagraph matched place.pos) || text.atLineEnd s then
          (.text (lastBackslash tokens lineBreak), next)
        else
          let tokens := match breakToken next lineBreak with
            | some token => tokens.push token
            | none => tokens
          b.paragraphLines fuel text.pos .plain tokens

/-- Whether a paragraph may turn out to be the title of a further definition. -/
def mayBeTitle (b : BlockState) : Bool :=
  match b.innermost, b.latestBlock with
  | .definitionList _ _, .none => true
  | .definitionList _ _, .definition => true
  | _, _ => false

/-- End a definition list in front of a block that is being added to it. -/
def endDefinitions (b : BlockState) : BlockState :=
  match b.innermost with
  | .definitionList group false =>
    (b.setInnermost (.definitionList group true)).emit [.stop .definitionList]
  | _ => b

/-- Read a paragraph whose text starts at `i`. -/
def paragraph (b : BlockState) (i : Nat) : BlockState × Nat :=
  let title := b.mayBeTitle
  let b := if title then { b with blankBefore := false } else b.finishList
  let (shape, next) := b.paragraphLines b.source.fuel i (if b.gfm then .mayBeHead else .plain) #[]
  match shape with
  | .table alignments => (if title then b.endDefinitions else b).table alignments i next
  | .heading level tokens =>
    let leaf := ⟨tokens, next, b.containers, false⟩
    let b := if title then b.endDefinitions else b
    let b := (b.addLeaf [.event (.start (.heading level))] leaf
      [.event (.stop .heading)]).setLatest .other
    (if title then b.finishList else b, next)
  | .text tokens =>
    let leaf := ⟨tokens, next, b.containers, false⟩
    let slot := b.tape.size
    if title then ((b.addLeaf [] leaf []).setLatest (.title slot (slot + 2)), next)
    else
      let group := b.paragraphGroup
      ((b.addLeaf [.paragraphStart group] leaf [.paragraphStop group]).setLatest
        (.paragraph slot (slot + 2)), next)

/-! ## The start of a line -/

/-- How far the opening of containers has come: the block is read up to a position,
or its text goes on at a place. -/
inductive Opening
  | done (next : Nat)
  | text (place : Cursor)

/-- Open a footnote definition; one that is innermost ends here. -/
def openFootnote (b : BlockState) (label : String) : BlockState :=
  let b := b.finishList
  let b := if b.innermost == .footnote then b.close else b
  { b with footnotes := b.footnotes.insert (labelKey label) () }.openContainer .footnote
    (.footnoteDefinition label)

/-- Make the paragraph or title before a definition its title, and open a
definition list for it if none is open. -/
def openDefinitions (b : BlockState) : BlockState :=
  match b.latestBlock with
  | .paragraph start stop =>
    let group := b.loose.size
    ((((b.fill start [.event (.start .definitionList), .event (.start .definitionListTitle)]).fill
      stop [.event (.stop .definitionListTitle)]).setLatest .other).enter
        (.definitionList group false) |> fun b => { b with loose := b.loose.push false })
  | .title start stop =>
    (b.fill start [.event (.start .definitionListTitle)]).fill stop
      [.event (.stop .definitionListTitle)]
  | _ => b

/-- Open a definition whose content is indented by `indent` columns. -/
def openDefinition (b : BlockState) (indent : Nat) : BlockState :=
  let b := b.openDefinitions
  let b :=
    match b.innermost.group? with
    | some group => if b.blankBefore then { b.loosen group with blankBefore := false } else b
    | none => b
  b.openContainer (.definition indent) .definitionListDefinition

/-- The mark of a definition at `place`, if the block before it can be its title. -/
def definitionStart? (b : BlockState) (outer : Nat) (place : Cursor) : Option (Nat × Cursor) :=
  if b.gfm then
    match b.latestBlock with
    | .paragraph _ _ | .title _ _ | .definition => definitionMark? b.source outer place
    | _ => none
  else none

/-- Open the containers that start from `place` on. An item or definition without
content on its line, and a task item, end the opening. -/
def openContainers (b : BlockState) (fuel : Nat) (place : Cursor) : BlockState × Opening :=
  match fuel with
  | 0 => (b, .text place)
  | fuel + 1 =>
    let s := b.source
    let (outer, inner) := place.columns s 4
    if 4 ≤ outer then (b, .text place)
    else
      match b.footnoteMark? false inner.pos with
      | some (next, label) =>
        (b.openFootnote label).openContainers fuel (.start (s.skipBlanks next))
      | none =>
        match itemMark? s outer inner with
        | some (mark, content) =>
          let b := (b.continueList mark).openContainer (.item mark.indent) .item
          match s.blankLine? content.pos with
          | some next => ({ b with emptyItem := true }, .done next)
          | none =>
            match if b.gfm then checkBox? s content else none with
            | some (checked, after) =>
              match s.blankLine? after.pos with
              | some next =>
                let b := (b.emit [.taskListMarker checked]).setLatest .other
                ({ b with emptyItem := true }, .done next)
              | none =>
                let (b, next) :=
                  { b with task := some checked }.paragraph (after.skipIndent s).pos
                (b, .done next)
            | none => b.openContainers fuel content
        | none =>
          match b.definitionStart? outer inner with
          | some (indent, content) =>
            let b := b.openDefinition indent
            match s.blankLine? content.pos with
            | some next => ({ b with emptyItem := true }, .done next)
            | none => b.openContainers fuel content
          | none =>
            match quoteMark? s inner with
            | some content =>
              let alert := if b.gfm then alertMark? s content.pos else none
              let b := b.finishList.openContainer .blockQuote (.blockQuote (alert.map (·.1)))
              match alert with
              | some (_, next) =>
                let (_, line, ends) := b.paragraphLine next
                if ends then (b, .done next) else (b, .text (line.skipIndent s))
              | none => b.openContainers fuel content
            | none => (b, .text place)

/-- Take note of a blank line. It counts for the looseness of lists unless it is
directly in a block quote, and an item that is still empty has no content after. -/
def blankLine (b : BlockState) : BlockState :=
  match b.innermost with
  | .blockQuote => b
  | .item _ =>
    { (if b.emptyItem then b.setInnermost (.item 0) else b) with blankBefore := true }
  | .definition _ =>
    { (if b.emptyItem then b.setInnermost (.definition 0) else b) with blankBefore := true }
  | _ => { b with blankBefore := true }

/-- Read link definitions from `i` on, and then the paragraph after them, if its
text follows without a break. -/
def definitionsAndParagraph (b : BlockState) (fuel i : Nat) : BlockState × Nat :=
  match fuel with
  | 0 => (b, b.source.stop)
  | fuel + 1 =>
    match b.linkDefinition? i with
    | none => b.paragraph i
    | some (stop, label, target) =>
      let b := b.defineLink label target
      match b.source.blankLine? stop with
      | none => (b.finishList, stop)
      | some next =>
        let (_, line, ends) := b.paragraphLine next
        if ends then (b.finishList, next)
        else b.definitionsAndParagraph fuel (line.skipIndent b.source).pos

/-- Read the block whose text goes on at `place`. -/
def content (b : BlockState) (place : Cursor) : BlockState × Nat :=
  let s := b.source
  match s.blankLine? place.pos with
  | some next => (b.blankLine, next)
  | none =>
    let (indent, inner) := place.columns s 4
    let i := inner.pos
    if indent == 4 then b.finishList.indentedCode inner
    else
      match rawBlock? s false i with
      | some stop => b.finishList.rawHtml stop (max place.spare indent) i
      | none =>
        match thematicBreak? s i with
        | some next => ((b.finishList.emit [.rule]).setLatest .other, next)
        | none =>
          match headingLevel? s i with
          | some level => b.finishList.heading level i
          | none =>
            match fence? s i with
            | some (mark, length) => b.finishList.fencedCode mark length indent i
            | none => b.definitionsAndParagraph s.fuel i

/-- Read one block from the line at `i` on. -/
def block (b : BlockState) (i : Nat) : BlockState × Nat :=
  let (matched, place) := continued b.source b.containers i
  match (b.closeTo matched).openContainers b.source.fuel place with
  | (b, .done next) => (b, next)
  | (b, .text place) => b.content place

/-- Read blocks from `i` on to the end of the text, and close what is open there. -/
def blocks (b : BlockState) (fuel i : Nat) : BlockState :=
  match fuel with
  | 0 => b.closeTo 1
  | fuel + 1 =>
    if i < b.source.stop then
      let (b, next) := b.block i
      b.blocks fuel next
    else b.closeTo 1

end BlockState

/-- Find the blocks of a text. -/
def analyse (gfm : Bool) (s : Source) : BlockState :=
  ({ source := s, gfm } : BlockState).blocks s.fuel 0

end MarkView.Markdown
