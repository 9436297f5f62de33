import MarkView.Tree.Kind
/-!
# Document events

A document as a flat stream: an element is a `start` event, its content and a
`stop` event; everything else is a single event. A stream need not be balanced,
and a `stop` need not name the element that it ends.
-/

namespace MarkView

/-- The kind of alert that a block quote is marked as. -/
inductive Alert
  | note
  | tip
  | important
  | warning
  | caution
  deriving DecidableEq, Repr, Inhabited

/-- The level of a heading, from 1 to 6. -/
structure HeadingLevel where
  number : Nat
  one_le : 1 ≤ number
  le_six : number ≤ 6
  deriving DecidableEq, Repr

namespace HeadingLevel

/-- The level that is closest to a number. -/
def ofNat (n : Nat) : HeadingLevel := ⟨max 1 (min n 6), by omega, by omega⟩

instance : Inhabited HeadingLevel := ⟨ofNat 1⟩

instance : Coe Nat HeadingLevel := ⟨ofNat⟩

theorem number_ofNat {n : Nat} (h₁ : 1 ≤ n) (h₆ : n ≤ 6) : (ofNat n).number = n := by
  simp only [ofNat]
  omega

end HeadingLevel

/-- The element that a `start` event opens. A code block without `info` is an
indented one; a list without `start` is a bullet list. -/
inductive Tag
  | paragraph
  | heading (level : HeadingLevel)
  | blockQuote (alert : Option Alert)
  | codeBlock (info : Option String)
  | htmlBlock
  | list (start : Option Nat)
  | item
  | footnoteDefinition (label : String)
  | definitionList
  | definitionListTitle
  | definitionListDefinition
  | table (alignments : List CellAlignment)
  | tableHead
  | tableRow
  | tableCell
  | emphasis
  | strong
  | strikethrough
  | superscript
  | subscript
  | link (url title : String)
  | image (url title : String)
  | metadataBlock
  deriving DecidableEq, Repr, Inhabited

/-- The name of an element, as a `stop` event gives it. -/
inductive TagName
  | paragraph
  | heading
  | blockQuote
  | codeBlock
  | htmlBlock
  | list
  | item
  | footnoteDefinition
  | definitionList
  | definitionListTitle
  | definitionListDefinition
  | table
  | tableHead
  | tableRow
  | tableCell
  | emphasis
  | strong
  | strikethrough
  | superscript
  | subscript
  | link
  | image
  | metadataBlock
  deriving DecidableEq, Repr, Inhabited

/-- The name of the element that a tag opens. -/
def Tag.name : Tag → TagName
  | paragraph => .paragraph
  | heading _ => .heading
  | blockQuote _ => .blockQuote
  | codeBlock _ => .codeBlock
  | htmlBlock => .htmlBlock
  | list _ => .list
  | item => .item
  | footnoteDefinition _ => .footnoteDefinition
  | definitionList => .definitionList
  | definitionListTitle => .definitionListTitle
  | definitionListDefinition => .definitionListDefinition
  | table _ => .table
  | tableHead => .tableHead
  | tableRow => .tableRow
  | tableCell => .tableCell
  | emphasis => .emphasis
  | strong => .strong
  | strikethrough => .strikethrough
  | superscript => .superscript
  | subscript => .subscript
  | link _ _ => .link
  | image _ _ => .image
  | metadataBlock => .metadataBlock

/-- Elements that leave no trace in the tree: their content belongs to the
element around them. -/
def TagName.isTransparent : TagName → Bool
  | htmlBlock | metadataBlock | superscript | subscript => true
  | _ => false

/-- One event of a document stream. -/
inductive Event
  | start (tag : Tag)
  | stop (name : TagName)
  | text (content : String)
  | code (content : String)
  | html (content : String)
  | inlineHtml (content : String)
  | inlineMath (content : String)
  | displayMath (content : String)
  | footnoteReference (label : String)
  | softBreak
  | hardBreak
  | rule
  | taskListMarker (checked : Bool)
  deriving DecidableEq, Repr, Inhabited

end MarkView
