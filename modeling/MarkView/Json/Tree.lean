import MarkView.Json.Value
import MarkView.Style.StyledNode
/-!
# Trees in JSON

A kind without payload is a string, and any other an object whose one field is
named for the kind and holds the payload. A node has fields for its kind, its rule
if it is styled, and its children if there are any.
-/

namespace MarkView

/-! ## Kinds -/

/-- The name of an alignment. -/
def CellAlignment.name : CellAlignment → String
  | .none => "none"
  | .left => "left"
  | .center => "center"
  | .right => "right"

/-- The alignment of a given name. -/
def CellAlignment.ofName? (name : String) : Option CellAlignment :=
  [CellAlignment.none, .left, .center, .right].find? (·.name == name)

/-- The name of a display. -/
def CodeDisplay.name : CodeDisplay → String
  | .inline => "inline"
  | .block => "block"

/-- The display of a given name. -/
def CodeDisplay.ofName? (name : String) : Option CodeDisplay :=
  [CodeDisplay.inline, .block].find? (·.name == name)

/-- The name of a type of node. -/
def NodeType.name : NodeType → String
  | .document => "document"
  | .heading _ => "heading"
  | .paragraph => "paragraph"
  | .unorderedList => "unordered_list"
  | .orderedList => "ordered_list"
  | .listItem => "list_item"
  | .link => "link"
  | .blockQuote => "block_quote"
  | .code => "code"
  | .emphasis => "emphasis"
  | .strong => "strong"
  | .strikethrough => "strikethrough"
  | .text => "text"
  | .softBreak => "soft_break"
  | .hardBreak => "hard_break"
  | .thematicBreak => "thematic_break"
  | .image => "image"
  | .html => "html"
  | .table => "table"
  | .tableHead => "table_head"
  | .tableRow => "table_row"
  | .tableCell => "table_cell"
  | .taskListMarker => "task_list_marker"
  | .footnoteDefinition => "footnote_definition"
  | .footnoteReference => "footnote_reference"
  | .definitionList => "definition_list"
  | .definitionListTitle => "definition_list_title"
  | .definitionListDefinition => "definition_list_definition"

/-- The types of node that have no payload. -/
def NodeType.plain : List NodeType :=
  [.document, .paragraph, .unorderedList, .orderedList, .listItem, .link, .blockQuote, .code,
    .emphasis, .strong, .strikethrough, .text, .softBreak, .hardBreak, .thematicBreak, .image,
    .html, .table, .tableHead, .tableRow, .tableCell, .taskListMarker, .footnoteDefinition,
    .footnoteReference, .definitionList, .definitionListTitle, .definitionListDefinition]

/-- The JSON of a type of node. -/
def NodeType.toJson : NodeType → Json
  | .heading level => .object [("heading", .number level)]
  | type => .string type.name

/-- The type of node that JSON stands for. -/
def NodeType.ofJson? : Json → Option NodeType
  | .string name => plain.find? (·.name == name)
  | .object [("heading", .number level)] => some (.heading level)
  | _ => none

/-- The JSON of a kind with its payload. -/
def NodeKind.toJson (kind : NodeKind) : Json :=
  let tagged (payload : Json) : Json := .object [(kind.type.name, payload)]
  match kind with
  | .heading level => tagged (.object [("level", .number level)])
  | .orderedList start => tagged (.object [("start", .number start)])
  | .link href title => tagged (.object [("href", .string href), ("title", .string title)])
  | .code display language =>
    tagged (.object [("display", .string display.name), ("language", .ofOptional language)])
  | .text content => tagged (.string content)
  | .image src title => tagged (.object [("src", .string src), ("title", .string title)])
  | .html content => tagged (.string content)
  | .tableCell header alignment =>
    tagged (.object [("header", .bool header), ("alignment", .string alignment.name)])
  | .taskListMarker checked => tagged (.object [("checked", .bool checked)])
  | .footnoteDefinition label => tagged (.object [("label", .string label)])
  | .footnoteReference label => tagged (.object [("label", .string label)])
  | _ => .string kind.type.name

namespace Json

/-- The string that a value is. -/
def string? : Json → Option String
  | string s => some s
  | _ => none

/-- The string or nothing that a value is. -/
def optional? : Json → Option (Option String)
  | null => some none
  | string s => some (some s)
  | _ => none

/-- The number that a value is. -/
def number? : Json → Option Nat
  | number n => some n
  | _ => none

/-- The truth value that a value is. -/
def bool? : Json → Option Bool
  | bool b => some b
  | _ => none

end Json

/-- The kind without payload of a given name. -/
def NodeKind.ofName? (name : String) : Option NodeKind :=
  [NodeKind.document, .paragraph, .unorderedList, .listItem, .blockQuote, .emphasis, .strong,
    .strikethrough, .softBreak, .hardBreak, .thematicBreak, .table, .tableHead, .tableRow,
    .definitionList, .definitionListTitle, .definitionListDefinition].find? (·.type.name == name)

/-- The kind with the given name and payload. -/
def NodeKind.ofPayload? (name : String) (payload : Json) : Option NodeKind :=
  match name with
  | "heading" => return .heading (← (← payload.field? "level").number?)
  | "ordered_list" => return .orderedList (← (← payload.field? "start").number?)
  | "link" =>
    return .link (← (← payload.field? "href").string?) (← (← payload.field? "title").string?)
  | "code" => do
    let display ← CodeDisplay.ofName? (← (← payload.field? "display").string?)
    return .code display (← (← payload.field? "language").optional?)
  | "text" => return .text (← payload.string?)
  | "image" =>
    return .image (← (← payload.field? "src").string?) (← (← payload.field? "title").string?)
  | "html" => return .html (← payload.string?)
  | "table_cell" => do
    let header ← (← payload.field? "header").bool?
    return .tableCell header (← CellAlignment.ofName? (← (← payload.field? "alignment").string?))
  | "task_list_marker" => return .taskListMarker (← (← payload.field? "checked").bool?)
  | "footnote_definition" => return .footnoteDefinition (← (← payload.field? "label").string?)
  | "footnote_reference" => return .footnoteReference (← (← payload.field? "label").string?)
  | _ => none

/-- The kind that JSON stands for. -/
def NodeKind.ofJson? : Json → Option NodeKind
  | .string name => ofName? name
  | .object [(name, payload)] => ofPayload? name payload
  | _ => none

/-! ## Rules -/

/-- The name of a policy. -/
def ChildPolicy.name : ChildPolicy → String
  | .passThrough => "pass_through"
  | .verbatim => "verbatim"

/-- The policy of a given name. -/
def ChildPolicy.ofName? (name : String) : Option ChildPolicy :=
  [ChildPolicy.passThrough, .verbatim].find? (·.name == name)

/-- The JSON of a container. -/
def Container.toJson (container : Container) : Json :=
  .object [("element", .string container.element.name), ("class", .string container.cssClass)]

/-- The container that JSON stands for. -/
def Container.ofJson? (value : Json) : Option Container := do
  let element ← Element.ofName? (← (← value.field? "element").string?)
  return ⟨element, ← (← value.field? "class").string?⟩

/-- The JSON of a rule. -/
def StyleRule.toJson (rule : StyleRule) : Json :=
  .object [
    ("class", .ofOptional rule.cssClass),
    ("container", (rule.container.map Container.toJson).getD .null),
    ("children", .string rule.children.name)]

/-- The rule that JSON stands for. -/
def StyleRule.ofJson? (value : Json) : Option StyleRule := do
  let cssClass ← (← value.field? "class").optional?
  let container ←
    match ← value.field? "container" with
    | .null => some none
    | container => (Container.ofJson? container).map some
  let children ← ChildPolicy.ofName? (← (← value.field? "children").string?)
  return { cssClass, container, children }

/-! ## Nodes -/

/-- The field for children, which a node without children lacks. -/
def childrenField : List Json → List (String × Json)
  | [] => []
  | children => [("children", .array children)]

mutual

/-- The JSON of a tree. -/
def Node.toJson : Node → Json
  | ⟨kind, children⟩ => .object (("kind", kind.toJson) :: childrenField (Node.toJsonAll children))

/-- The JSON of a row of trees. -/
def Node.toJsonAll : List Node → List Json
  | [] => []
  | node :: rest => node.toJson :: Node.toJsonAll rest

end

mutual

/-- The JSON of a styled tree. -/
def StyledNode.toJson : StyledNode → Json
  | ⟨kind, rule, children⟩ =>
    .object (("kind", kind.toJson) :: ("rule", rule.toJson) ::
      childrenField (StyledNode.toJsonAll children))

/-- The JSON of a row of styled trees. -/
def StyledNode.toJsonAll : List StyledNode → List Json
  | [] => []
  | node :: rest => node.toJson :: StyledNode.toJsonAll rest

end

/-- The rule that the fields of a node give it: that of its kind if they give none. -/
def ruleOfFields? (kind : NodeKind) (fields : List (String × Json)) : Option StyleRule :=
  match fields.lookup "rule" with
  | some rule => StyleRule.ofJson? rule
  | none => some kind.rule

mutual

/-- The styled tree that JSON stands for. A node without a rule has that of its
kind. -/
def StyledNode.ofJson? : Json → Option StyledNode
  | .object fields => do
    let kind ← NodeKind.ofJson? (← fields.lookup "kind")
    return ⟨kind, ← ruleOfFields? kind fields, ← StyledNode.childrenOfFields? fields⟩
  | _ => none

/-- The children that the fields of a node give it. -/
def StyledNode.childrenOfFields? : List (String × Json) → Option (List StyledNode)
  | [] => some []
  | (name, value) :: rest =>
    if name = "children" then StyledNode.childrenOfJson? value
    else StyledNode.childrenOfFields? rest

/-- The row of styled trees that JSON stands for. -/
def StyledNode.childrenOfJson? : Json → Option (List StyledNode)
  | .array items => StyledNode.ofJsonAll? items
  | _ => none

/-- The styled trees that a row of JSON stands for. -/
def StyledNode.ofJsonAll? : List Json → Option (List StyledNode)
  | [] => some []
  | item :: rest => do return (← StyledNode.ofJson? item) :: (← StyledNode.ofJsonAll? rest)

end

end MarkView
