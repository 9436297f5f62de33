import MarkView.Text.Space
import MarkView.Tree.Event
import MarkView.Tree.Node
/-!
# Building a tree from events

`Builder` folds a stream of events into a tree. It accepts every stream: a stop
without an open element is ignored, and elements still open at the end are
closed there. Nesting is kept down to `maxDepth` elements; what opens deeper is
flattened, that is, its content goes to the deepest element kept.
-/

namespace MarkView

/-- The deepest element nesting that a built tree has. -/
def maxDepth : Nat := 128

/-- The language of a code block: the first word of its info string. -/
def codeLanguage (info : Option String) : Option String :=
  info.bind fun s => (Text.words s.toList).head?.map String.ofList

/-- An element whose stop is still to come, with its children so far, the latest
first. -/
structure Frame where
  kind : NodeKind
  children : List Node
  deriving Inhabited

/-- What a table cell needs to know of its place: the alignments of the columns,
whether the head is open, and how many cells of the row came before. -/
structure TablePlace where
  alignments : List CellAlignment := []
  inHead : Bool := false
  cellIndex : Nat := 0
  deriving Inhabited

namespace TablePlace

/-- The alignment of the next cell, which past the last column is none. -/
def alignment (place : TablePlace) : CellAlignment :=
  place.alignments.getD place.cellIndex .none

/-- The place inside an element that has just opened. A table starts with its
alignments and no head, a head or row starts with its first cell. -/
def enter (place : TablePlace) : Tag → TablePlace
  | .table alignments => { alignments }
  | .tableHead => { place with inHead := true, cellIndex := 0 }
  | .tableRow => { place with cellIndex := 0 }
  | .tableCell => { place with cellIndex := place.cellIndex + 1 }
  | _ => place

/-- The place after an element. Only the end of a head matters: it ends the
header cells. -/
def leave (place : TablePlace) (name : TagName) : TablePlace :=
  if name = .tableHead then { place with inHead := false } else place

end TablePlace

/-- The kind of node that a tag opens; a transparent element opens none. A cell
takes the alignment of its column. -/
def Tag.kind? (place : TablePlace) : Tag → Option NodeKind
  | .paragraph => some .paragraph
  | .heading level => some (.heading level.number)
  | .blockQuote _ => some .blockQuote
  | .codeBlock info => some (.code .block (codeLanguage info))
  | .list (some first) => some (.orderedList first)
  | .list none => some .unorderedList
  | .item => some .listItem
  | .footnoteDefinition label => some (.footnoteDefinition label)
  | .definitionList => some .definitionList
  | .definitionListTitle => some .definitionListTitle
  | .definitionListDefinition => some .definitionListDefinition
  | .table _ => some .table
  | .tableHead => some .tableHead
  | .tableRow => some .tableRow
  | .tableCell => some (.tableCell place.inHead place.alignment)
  | .emphasis => some .emphasis
  | .strong => some .strong
  | .strikethrough => some .strikethrough
  | .link url title => some (.link url title)
  | .image url title => some (.image url title)
  | .htmlBlock | .metadataBlock | .superscript | .subscript => none

/-- The state of the fold. `opened` holds the open elements, the innermost
first, and `root` the children of the document so far, the latest first. At most
`limit` elements are kept open, or any number if there is no limit. -/
structure Builder where
  opened : List Frame := []
  root : List Node := []
  table : TablePlace := {}
  flattened : Nat := 0
  limit : Option Nat := some maxDepth
  deriving Inhabited

namespace Builder

/-- Change the children of the innermost open element. -/
def updateChildren (b : Builder) (f : List Node → List Node) : Builder :=
  match b.opened with
  | [] => { b with root := f b.root }
  | frame :: outer => { b with opened := { frame with children := f frame.children } :: outer }

/-- Add a node as the last child of the innermost open element. -/
def append (b : Builder) (node : Node) : Builder :=
  b.updateChildren (node :: ·)

/-- Whether one more element can be kept open. -/
def hasRoom (b : Builder) : Bool := b.limit.all (b.opened.length < ·)

/-- Open an element, or count it as flattened when the nesting is full. -/
def openElement (b : Builder) (kind : NodeKind) : Builder :=
  if b.hasRoom then { b with opened := ⟨kind, []⟩ :: b.opened }
  else { b with flattened := b.flattened + 1 }

/-- Close the innermost element, if there is one. -/
def closeElement (b : Builder) : Builder :=
  if b.flattened > 0 then { b with flattened := b.flattened - 1 }
  else
    match b.opened with
    | [] => b
    | frame :: outer => { b with opened := outer }.append ⟨frame.kind, frame.children.reverse⟩

/-- Add text, as part of a text leaf that directly precedes it. -/
def addText (b : Builder) (content : String) : Builder :=
  b.updateChildren fun
    | ⟨.text last, below⟩ :: earlier => ⟨.text (last ++ content), below⟩ :: earlier
    | children => Node.leaf (.text content) :: children

/-- Add raw HTML, as part of an HTML leaf that directly precedes it. -/
def addHtml (b : Builder) (content : String) : Builder :=
  b.updateChildren fun
    | ⟨.html last, below⟩ :: earlier => ⟨.html (last ++ content), below⟩ :: earlier
    | children => Node.leaf (.html content) :: children

/-- Open the element of a tag, if it has one. -/
def start (b : Builder) (tag : Tag) : Builder :=
  match tag.kind? b.table with
  | some kind => { b with table := b.table.enter tag }.openElement kind
  | none => b

/-- Close an element. The name matters only in so far as a transparent element
closes nothing and the end of a head ends the header cells. -/
def stop (b : Builder) (name : TagName) : Builder :=
  if name.isTransparent then b else { b with table := b.table.leave name }.closeElement

/-- Take one event. Mathematics is kept as it was written. -/
def push (b : Builder) : Event → Builder
  | .start tag => b.start tag
  | .stop name => b.stop name
  | .text content => b.addText content
  | .code content => ((b.openElement (.code .inline none)).addText content).closeElement
  | .html content => b.addHtml content
  | .inlineHtml content => b.addHtml content
  | .inlineMath content => b.addText ("$" ++ content ++ "$")
  | .displayMath content => b.addText ("$$" ++ content ++ "$$")
  | .footnoteReference label => b.append (.leaf (.footnoteReference label))
  | .softBreak => b.append (.leaf .softBreak)
  | .hardBreak => b.append (.leaf .hardBreak)
  | .rule => b.append (.leaf .thematicBreak)
  | .taskListMarker checked => b.append (.leaf (.taskListMarker checked))

/-- How many elements are open, those that were flattened included. -/
def depth (b : Builder) : Nat := b.opened.length + b.flattened

/-- Close a given number of elements. -/
def closeElements : Nat → Builder → Builder
  | 0, b => b
  | n + 1, b => closeElements n b.closeElement

/-- Close what is still open and return the document. -/
def finish (b : Builder) : Node :=
  ⟨.document, (closeElements b.depth b).root.reverse⟩

end Builder

/-- The tree of a stream of events, with the given limit to its nesting. -/
def Node.ofEventsWithin (limit : Option Nat) (events : List Event) : Node :=
  (events.foldl Builder.push { limit }).finish

/-- The tree of a stream of events. -/
def Node.ofEvents (events : List Event) : Node := Node.ofEventsWithin (some maxDepth) events

end MarkView
