import MarkView.Style.StyledNode
import MarkView.Text.Quoted
import MarkView.Text.Space
/-!
# Outlines

The outline of a styled tree is a picture of it in plain text, one line for each
node, indented by two spaces for each level. An element shows its tag and
classes, with its container before it, and a leaf of text is quoted. The document
itself has no line.
-/

namespace MarkView

/-- A tag with its classes, each after a dot. -/
def selector (element : Element) (cssClass : Option String) : String :=
  element.tag?.getD "#fragment" ++
    String.join ((Text.words (cssClass.getD "").toList).map fun w => "." ++ String.ofList w)

/-- What the line of a node says, the indentation apart. -/
def outlineLabel (kind : NodeKind) (rule : StyleRule) : String :=
  match kind with
  | .text content => Text.quote content
  | .html content => Text.quote content
  | .softBreak => "\"\\n\""
  | _ =>
    let container :=
      match rule.container with
      | some c => selector c.element (some c.cssClass) ++ " > "
      | none => ""
    let language :=
      match kind with
      | .code _ (some language) => ".language-" ++ language
      | _ => ""
    container ++ selector kind.element rule.cssClass ++ language

/-- The line of a node at a depth. -/
def outlineLine (depth : Nat) (kind : NodeKind) (rule : StyleRule) : String :=
  String.ofList (List.replicate (2 * depth) ' ') ++ outlineLabel kind rule ++ "\n"

mutual

/-- The lines of a tree whose root is at a depth. -/
def outlineLines (depth : Nat) : StyledNode → List String
  | ⟨kind, rule, children⟩ => outlineLine depth kind rule :: outlineLinesAll (depth + 1) children

/-- The lines of a row of trees. -/
def outlineLinesAll (depth : Nat) : List StyledNode → List String
  | [] => []
  | node :: rest => outlineLines depth node ++ outlineLinesAll depth rest

end

/-- The outline of a tree. -/
def outline (tree : StyledNode) : String :=
  String.join <|
    match tree.kind with
    | .document => outlineLinesAll 0 tree.children
    | _ => outlineLines 0 tree

end MarkView
