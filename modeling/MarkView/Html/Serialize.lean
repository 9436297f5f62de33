import MarkView.Html.Markup
import MarkView.Html.Url
import MarkView.Style.StyledNode
/-!
# Styled trees as HTML

One element for each node that has one, with the class of its rule and the
container of its rule around it. Block-level siblings stand on separate lines.
A few kinds are written in a way of their own: an image has its text as an
attribute, a table wraps its rows in `tbody` and its head cells in a row, and a
footnote reference holds a link to its definition.
-/

namespace MarkView.Html

/-- A number in decimal digits. -/
def decimal (n : Nat) : String := String.ofList (Nat.toDigits 10 n)

/-- The class attribute, if there is a class. -/
def classAttribute (cssClass : Option String) : List Attribute :=
  cssClass.toList.map (.ofValue "class")

/-- The title attribute of a link or an image, if there is a title. -/
def titleAttribute (title : String) : List Attribute :=
  if title.isEmpty then [] else [.ofValue "title" title]

/-- The start tag of an element; a fragment has none. -/
def startOf (element : Element) (cssClass : Option String) (attributes : List Attribute) :
    List Markup :=
  element.tag?.toList.map fun tag => .startTag tag (classAttribute cssClass ++ attributes)

/-- The end tag of an element; a fragment has none. -/
def endOf (element : Element) : List Markup := element.tag?.toList.map .endTag

/-- Put the container of a rule around some pieces. -/
def inContainer (container : Option Container) (pieces : List Markup) : List Markup :=
  match container with
  | some c => startOf c.element (some c.cssClass) [] ++ pieces ++ endOf c.element
  | none => pieces

/-- The class of a node's own element: that of its rule, followed by one for the
language of code. -/
def ownClass (kind : NodeKind) (rule : StyleRule) : Option String :=
  match kind with
  | .code _ (some language) =>
    match rule.cssClass with
    | some cssClass => some (cssClass ++ " language-" ++ language)
    | none => some ("language-" ++ language)
  | _ => rule.cssClass

/-- The attributes of a node's own element, its class apart. -/
def ownAttributes : NodeKind → List Attribute
  | .link href title => .ofValue "href" (safeUrl href) :: titleAttribute title
  | .orderedList start => if start = 1 then [] else [.ofValue "start" (decimal start)]
  | .tableCell _ alignment =>
    alignment.css.toList.map fun align => .ofValue "style" ("text-align: " ++ align)
  | .taskListMarker checked =>
    .ofValue "type" "checkbox" :: (if checked then [.flag "checked"] else []) ++ [.flag "disabled"]
  | .footnoteDefinition label => [.ofValue "id" ("fn-" ++ label)]
  | _ => []

/-- The attributes of an image whose content reads `alt`. -/
def imageAttributes (src title alt : String) : List Attribute :=
  .ofValue "src" (safeUrl src) :: titleAttribute title ++ [.ofValue "alt" alt]

/-- The link inside a footnote reference. -/
def footnoteLink (label : String) : List Markup :=
  [.startTag "a" [.ofValue "href" ("#fn-" ++ label)], .text label, .endTag "a"]

/-- A node's own element around the given content, which a void element drops. -/
def inElement (element : Element) (cssClass : Option String) (attributes : List Attribute)
    (content : List Markup) : List Markup :=
  startOf element cssClass attributes ++
    if element.isVoid then [] else content ++ endOf element

mutual

/-- The HTML of a tree. -/
def markup : StyledNode → List Markup
  | ⟨kind, rule, children⟩ =>
    inContainer rule.container <|
      match kind with
      | .text content => [.text content]
      | .html content => [.text content]
      | .softBreak => [.text "\n"]
      | .image src title =>
        startOf .img rule.cssClass
          (imageAttributes src title (String.join (StyledNode.leafTexts children)))
      | .tableHead =>
        startOf .thead rule.cssClass [] ++ startOf .tr none [] ++ markupRow false children ++
          endOf .tr ++ endOf .thead
      | .table =>
        startOf .table rule.cssClass [] ++ markupHeads children ++
          (if children.all (·.kind = .tableHead) then []
            else [.startTag "tbody" []] ++ markupBody children ++ [.endTag "tbody"]) ++
          endOf .table
      | .footnoteReference label =>
        inElement .sup (ownClass kind rule) (ownAttributes kind) (footnoteLink label)
      | _ =>
        inElement kind.element (ownClass kind rule) (ownAttributes kind) <|
          match rule.children with
          | .verbatim => (StyledNode.leafTexts children).map .text
          | .passThrough => markupRow false children

/-- The HTML of a row of siblings, of which the one before may be a block. -/
def markupRow (afterBlock : Bool) : List StyledNode → List Markup
  | [] => []
  | node :: rest =>
    (if afterBlock && node.kind.isBlock then [.text "\n"] else []) ++ markup node ++
      markupRow node.kind.isBlock rest

/-- The HTML of the heads among the children of a table. -/
def markupHeads : List StyledNode → List Markup
  | [] => []
  | node :: rest => (if node.kind = .tableHead then markup node else []) ++ markupHeads rest

/-- The HTML of all other children of a table. -/
def markupBody : List StyledNode → List Markup
  | [] => []
  | node :: rest => (if node.kind = .tableHead then [] else markup node) ++ markupBody rest

end

/-- The HTML of a tree, written out. -/
def serialize (tree : StyledNode) : String := writeAll (markup tree)

end MarkView.Html
