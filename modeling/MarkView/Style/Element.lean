import MarkView.Tree.Kind
/-!
# HTML elements

The elements that nodes and their containers are written as. `fragment` stands
for no element at all: its content is written without a tag around it.
-/

namespace MarkView

/-- An HTML element, or none. -/
inductive Element
  | fragment
  | h1
  | h2
  | h3
  | h4
  | h5
  | h6
  | p
  | ul
  | ol
  | li
  | a
  | blockquote
  | pre
  | code
  | em
  | strong
  | del
  | sup
  | hr
  | br
  | img
  | input
  | table
  | thead
  | tr
  | th
  | td
  | div
  | dl
  | dt
  | dd
  deriving DecidableEq, Repr, Inhabited

namespace Element

/-- The tag name, which a fragment has not. -/
def tag? : Element → Option String
  | fragment => none
  | h1 => some "h1"
  | h2 => some "h2"
  | h3 => some "h3"
  | h4 => some "h4"
  | h5 => some "h5"
  | h6 => some "h6"
  | p => some "p"
  | ul => some "ul"
  | ol => some "ol"
  | li => some "li"
  | a => some "a"
  | blockquote => some "blockquote"
  | pre => some "pre"
  | code => some "code"
  | em => some "em"
  | strong => some "strong"
  | del => some "del"
  | sup => some "sup"
  | hr => some "hr"
  | br => some "br"
  | img => some "img"
  | input => some "input"
  | table => some "table"
  | thead => some "thead"
  | tr => some "tr"
  | th => some "th"
  | td => some "td"
  | div => some "div"
  | dl => some "dl"
  | dt => some "dt"
  | dd => some "dd"

/-- Only a fragment has no tag. -/
theorem tag?_eq_none_iff {element : Element} : element.tag? = none ↔ element = fragment := by
  cases element <;> simp [tag?]

/-- The name of the element, which for a fragment is no tag name. -/
def name (element : Element) : String := element.tag?.getD "fragment"

/-- The tag of everything else is its name. -/
theorem tag?_of_ne_fragment {element : Element} (h : element ≠ fragment) :
    element.tag? = some element.name := by
  cases htag : element.tag? with
  | none => exact absurd (tag?_eq_none_iff.mp htag) h
  | some tag => rw [name, htag, Option.getD_some]

/-- Void elements have neither content nor an end tag. -/
def isVoid : Element → Bool
  | hr | br | img | input => true
  | _ => false

/-- The heading element of a level from 1 to 6. -/
def heading? : Nat → Option Element
  | 1 => some h1
  | 2 => some h2
  | 3 => some h3
  | 4 => some h4
  | 5 => some h5
  | 6 => some h6
  | _ => none

/-- All elements. -/
def all : List Element :=
  [fragment, h1, h2, h3, h4, h5, h6, p, ul, ol, li, a, blockquote, pre, code, em, strong, del,
    sup, hr, br, img, input, table, thead, tr, th, td, div, dl, dt, dd]

/-- The element of a given name. -/
def ofName? (name : String) : Option Element := all.find? (·.name == name)

theorem ofName?_name (element : Element) : ofName? element.name = some element := by
  cases element <;> decide

end Element

/-- The element that a node is written as, before any styling. -/
def NodeKind.element : NodeKind → Element
  | .heading level => (Element.heading? level).getD .fragment
  | .paragraph => .p
  | .unorderedList => .ul
  | .orderedList _ => .ol
  | .listItem => .li
  | .link _ _ => .a
  | .blockQuote => .blockquote
  | .code _ _ => .code
  | .emphasis => .em
  | .strong => .strong
  | .strikethrough => .del
  | .footnoteReference _ => .sup
  | .hardBreak => .br
  | .thematicBreak => .hr
  | .image _ _ => .img
  | .table => .table
  | .tableHead => .thead
  | .tableRow => .tr
  | .tableCell true _ => .th
  | .tableCell false _ => .td
  | .taskListMarker _ => .input
  | .footnoteDefinition _ => .div
  | .definitionList => .dl
  | .definitionListTitle => .dt
  | .definitionListDefinition => .dd
  | .document | .text _ | .softBreak | .html _ => .fragment

end MarkView
