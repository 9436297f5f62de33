/-!
# Kinds of nodes

A document is a tree whose nodes carry a `NodeKind`: an element such as a
paragraph or a link, or a leaf such as a text or a line break, with the payload
that the element needs. `NodeType` is the kind without its payload.
-/

namespace MarkView

/-- Whether code stands in a line of text or is a block of its own. -/
inductive CodeDisplay
  | inline
  | block
  deriving DecidableEq, Repr, Inhabited

/-- Horizontal alignment of a table cell. -/
inductive CellAlignment
  | none
  | left
  | center
  | right
  deriving DecidableEq, Repr, Inhabited

/-- The CSS `text-align` value of an alignment that has one. -/
def CellAlignment.css : CellAlignment → Option String
  | .none => Option.none
  | .left => some "left"
  | .center => some "center"
  | .right => some "right"

/-- What a node is, without its payload; the level of a heading counts as part
of what it is. -/
inductive NodeType
  | document
  | heading (level : Nat)
  | paragraph
  | unorderedList
  | orderedList
  | listItem
  | link
  | blockQuote
  | code
  | emphasis
  | strong
  | strikethrough
  | text
  | softBreak
  | hardBreak
  | thematicBreak
  | image
  | html
  | table
  | tableHead
  | tableRow
  | tableCell
  | taskListMarker
  | footnoteDefinition
  | footnoteReference
  | definitionList
  | definitionListTitle
  | definitionListDefinition
  deriving DecidableEq, Repr, Inhabited

/-- What a node is, with its payload. The alternative text of an image is its
children; `html` is raw HTML of the source. -/
inductive NodeKind
  | document
  | heading (level : Nat)
  | paragraph
  | unorderedList
  | orderedList (start : Nat)
  | listItem
  | link (href title : String)
  | blockQuote
  | code (display : CodeDisplay) (language : Option String)
  | emphasis
  | strong
  | strikethrough
  | text (content : String)
  | softBreak
  | hardBreak
  | thematicBreak
  | image (src title : String)
  | html (content : String)
  | table
  | tableHead
  | tableRow
  | tableCell (header : Bool) (alignment : CellAlignment)
  | taskListMarker (checked : Bool)
  | footnoteDefinition (label : String)
  | footnoteReference (label : String)
  | definitionList
  | definitionListTitle
  | definitionListDefinition
  deriving DecidableEq, Repr, Inhabited

namespace NodeKind

/-- The kind without its payload. -/
def type : NodeKind → NodeType
  | document => .document
  | heading level => .heading level
  | paragraph => .paragraph
  | unorderedList => .unorderedList
  | orderedList _ => .orderedList
  | listItem => .listItem
  | link _ _ => .link
  | blockQuote => .blockQuote
  | code _ _ => .code
  | emphasis => .emphasis
  | strong => .strong
  | strikethrough => .strikethrough
  | text _ => .text
  | softBreak => .softBreak
  | hardBreak => .hardBreak
  | thematicBreak => .thematicBreak
  | image _ _ => .image
  | html _ => .html
  | table => .table
  | tableHead => .tableHead
  | tableRow => .tableRow
  | tableCell _ _ => .tableCell
  | taskListMarker _ => .taskListMarker
  | footnoteDefinition _ => .footnoteDefinition
  | footnoteReference _ => .footnoteReference
  | definitionList => .definitionList
  | definitionListTitle => .definitionListTitle
  | definitionListDefinition => .definitionListDefinition

/-- Block-level kinds. Two of them that follow each other as siblings stand on
separate lines in HTML. -/
def isBlock : NodeKind → Bool
  | code display _ => display == .block
  | heading _ | paragraph | unorderedList | orderedList _ | listItem | blockQuote
  | thematicBreak | table | tableHead | tableRow | footnoteDefinition _
  | definitionList | definitionListTitle | definitionListDefinition => true
  | _ => false

/-- The literal text of a leaf that has some. -/
def literal? : NodeKind → Option String
  | text content => some content
  | html content => some content
  | _ => none

end NodeKind

end MarkView
