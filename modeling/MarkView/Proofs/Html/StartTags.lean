import MarkView.Proofs.Html.Document
import MarkView.Proofs.Tree.Normal
/-!
# The start tags of a page

The start tags that are read from the HTML of a tree, in order, say which elements a page has.
They follow the tree (`nodeTags_mk`): first those of the node itself (`ownTags`), whatever is
written around it or within it, then those of its children, in a table with the heads first. Of a
leaf, of an image and of code no child is written as an element.
-/

namespace MarkView.Html

/-- A start tag, as it is read. -/
structure StartTag where
  name : String
  attributes : List Attribute
  deriving DecidableEq, Repr

/-- The value of an attribute, if the tag has it and it has one. -/
def StartTag.value? (tag : StartTag) (name : String) : Option String :=
  (tag.attributes.find? (·.name == name)).bind (·.value)

/-- What was read, if it is a start tag. -/
def Token.startTag? : Token → Option StartTag
  | startTag name attributes => some ⟨name, attributes⟩
  | endTag _ | char _ => none

/-- The start tags among what was read. -/
def startTags (tokens : List Token) : List StartTag := tokens.filterMap Token.startTag?

/-- The start tags of some pieces of HTML. -/
def pieceTags (pieces : List Markup) : List StartTag := startTags (pieces.flatMap Markup.tokens)

/-- The start tags of a tree. -/
def nodeTags (node : Node) : List StartTag := pieceTags (markup node.styled)

/-- **What is written of a tree has just its start tags.** -/
theorem lex_serialize (node : Node) :
    ∃ tokens, lex (serialize node.styled) = some tokens ∧ startTags tokens = nodeTags node := by
  have hread := lex_writeAll (inert_markup node.styled).readable
  exact ⟨_, hread, rfl⟩

/-! ## Pieces -/

/-- The start tag of an element; a fragment has none. -/
def elementTags (element : Element) (cssClass : Option String) (attributes : List Attribute) :
    List StartTag :=
  element.tag?.toList.map (⟨·, classAttribute cssClass ++ attributes⟩)

/-- The start tag of the container around a node, if there is one. -/
def containerTags (container : Option Container) : List StartTag :=
  container.toList.flatMap fun c => elementTags c.element (some c.cssClass) []

section Pieces

variable {xs ys : List Markup} {element : Element} {cssClass : Option String}
  {attributes : List Attribute} {name : String}

@[simp] theorem pieceTags_nil : pieceTags [] = [] := rfl

@[simp] theorem pieceTags_append : pieceTags (xs ++ ys) = pieceTags xs ++ pieceTags ys := by
  simp [pieceTags, startTags]

@[simp] theorem pieceTags_text (content : String) : pieceTags [.text content] = [] := by
  simp [pieceTags, startTags, Markup.tokens, Token.startTag?]

@[simp] theorem pieceTags_startTag :
    pieceTags [.startTag name attributes] = [⟨name, attributes⟩] := rfl

@[simp] theorem pieceTags_endTag : pieceTags [.endTag name] = [] := rfl

@[simp] theorem pieceTags_texts (contents : List String) :
    pieceTags (contents.map .text) = [] := by
  induction contents with
  | nil => rfl
  | cons content rest ih =>
    rw [List.map_cons, ← List.singleton_append, pieceTags_append, pieceTags_text, ih]
    rfl

@[simp] theorem pieceTags_startOf :
    pieceTags (startOf element cssClass attributes) = elementTags element cssClass attributes := by
  rw [startOf, elementTags]
  cases element.tag? <;> rfl

@[simp] theorem pieceTags_endOf : pieceTags (endOf element) = [] := by
  rw [endOf]
  cases element.tag? <;> rfl

theorem pieceTags_inElement :
    pieceTags (inElement element cssClass attributes xs) =
      elementTags element cssClass attributes ++ if element.isVoid then [] else pieceTags xs := by
  rw [inElement, pieceTags_append, pieceTags_startOf]
  split <;> simp

theorem pieceTags_inContainer (container : Option Container) :
    pieceTags (inContainer container xs) = containerTags container ++ pieceTags xs := by
  cases container with
  | none => rfl
  | some c => simp [inContainer, containerTags]

@[simp] theorem pieceTags_footnoteLink (label : String) :
    pieceTags (footnoteLink label) = [⟨"a", [.ofValue "href" ("#fn-" ++ label)]⟩] := by
  simp [pieceTags, startTags, footnoteLink, Markup.tokens, Token.startTag?]

end Pieces

/-! ## Rows -/

section Rows

variable {nodes : List Node}

theorem pieceTags_markupRow (afterBlock : Bool) :
    pieceTags (markupRow afterBlock (Node.styledAll nodes)) = nodes.flatMap nodeTags := by
  induction nodes generalizing afterBlock with
  | nil => rfl
  | cons node rest ih =>
    have hbreak : pieceTags (if afterBlock && node.styled.kind.isBlock then [.text "\n"] else []) =
        [] := by
      split <;> simp
    rw [Node.styledAll, markupRow, pieceTags_append, pieceTags_append, hbreak, ih,
      List.flatMap_cons]
    rfl

theorem pieceTags_markupHeads :
    pieceTags (markupHeads (Node.styledAll nodes)) =
      (nodes.filter (·.kind = .tableHead)).flatMap nodeTags := by
  induction nodes with
  | nil => rfl
  | cons node rest ih =>
    rw [Node.styledAll, markupHeads, Node.kind_styled, pieceTags_append, ih]
    by_cases hkind : node.kind = .tableHead <;> simp [hkind, nodeTags]

theorem pieceTags_markupBody :
    pieceTags (markupBody (Node.styledAll nodes)) =
      (nodes.filter (·.kind ≠ .tableHead)).flatMap nodeTags := by
  induction nodes with
  | nil => rfl
  | cons node rest ih =>
    rw [Node.styledAll, markupBody, Node.kind_styled, pieceTags_append, ih]
    by_cases hkind : node.kind = .tableHead <;> simp [hkind, nodeTags]

/-- The start tags between those of a table: the heads, and then all else in one body. -/
def tableTags (rows : List Node) : List StartTag :=
  (rows.filter (·.kind = .tableHead)).flatMap nodeTags ++
    if rows.all (·.kind = .tableHead) then []
    else ⟨"tbody", []⟩ :: (rows.filter (·.kind ≠ .tableHead)).flatMap nodeTags

theorem pieceTags_tableMarkup :
    pieceTags (tableMarkup (Node.styledAll nodes)) = tableTags nodes := by
  have hall : (Node.styledAll nodes).all (·.kind = .tableHead) =
      nodes.all (·.kind = .tableHead) := by
    rw [Node.styledAll_eq_map, List.all_map]
    simp [Function.comp_def]
  rw [tableMarkup, pieceTags_append, pieceTags_markupHeads, tableTags, hall]
  split
  · rfl
  · rw [pieceTags_append, pieceTags_append, pieceTags_markupBody, pieceTags_startTag,
      pieceTags_endTag, List.append_nil, List.singleton_append]

end Rows

/-! ## Names of attributes -/

theorem name_titleAttribute (title : String) : ∀ a ∈ titleAttribute title, a.name = "title" := by
  unfold titleAttribute
  split <;> simp [Attribute.ofValue]

/-- The names of the attributes that the kinds have of their own, those of images apart. -/
def ownNames : List String :=
  ["href", "title", "start", "style", "type", "checked", "disabled", "id"]

theorem name_mem_ownNames (kind : NodeKind) : ∀ a ∈ ownAttributes kind, a.name ∈ ownNames := by
  cases kind with
  | link href title =>
    refine List.forall_mem_cons.mpr ⟨by simp [Attribute.ofValue, ownNames], fun a ha => ?_⟩
    simp [name_titleAttribute title a ha, ownNames]
  | orderedList start =>
    rw [ownAttributes]
    split <;> simp [Attribute.ofValue, ownNames]
  | taskListMarker checked =>
    cases checked <;> simp [ownAttributes, Attribute.ofValue, Attribute.flag, ownNames]
  | _ => simp [ownAttributes, Attribute.ofValue, ownNames]

/-! ## Trees -/

/-- The start tags that a kind is written with, its container and its children apart. The text
below an image is one of its attributes. -/
def innerTags (alt : String) (kind : NodeKind) : List StartTag :=
  match kind with
  | .text _ | .html _ | .softBreak => []
  | .image src title => elementTags .img kind.rule.cssClass (imageAttributes src title alt)
  | .tableHead => elementTags .thead kind.rule.cssClass [] ++ elementTags .tr none []
  | .footnoteReference label =>
    elementTags .sup (ownClass kind kind.rule) (ownAttributes kind) ++
      [⟨"a", [.ofValue "href" ("#fn-" ++ label)]⟩]
  | _ => elementTags kind.element (ownClass kind kind.rule) (ownAttributes kind)

/-- The start tags that a kind is written with, its children apart. -/
def ownTags (alt : String) (kind : NodeKind) : List StartTag :=
  containerTags kind.rule.container ++ innerTags alt kind

/-- The start tags of the children of a node. -/
def childTags (kind : NodeKind) (children : List Node) : List StartTag :=
  if kind.isLeaf || kind.isOpaque then []
  else if kind = .table then tableTags children
  else children.flatMap nodeTags

/-- **The start tags of a node are its own and then those of its children.** -/
theorem nodeTags_mk (kind : NodeKind) (children : List Node) :
    nodeTags ⟨kind, children⟩ =
      ownTags (String.join (Node.leafTexts children)) kind ++ childTags kind children := by
  have hrow : pieceTags (markupRow false (Node.styledAll children)) = children.flatMap nodeTags :=
    pieceTags_markupRow false
  rw [nodeTags, Node.styled]
  unfold markup
  rw [pieceTags_inContainer, ownTags, List.append_assoc (containerTags kind.rule.container)]
  refine congrArg (containerTags kind.rule.container ++ ·) ?_
  -- the kinds that are written in a way of their own, and then those that are just an element
  -- around their children
  cases kind with
  | text content | html content | softBreak => exact pieceTags_text _
  | image src title =>
    rw [pieceTags_startOf, StyledNode.leafTexts_styledAll]
    exact (List.append_nil _).symm
  | tableHead =>
    simp only [pieceTags_append, pieceTags_startOf, pieceTags_endOf, hrow, List.append_nil]
    rfl
  | table =>
    have htable : pieceTags (startOf .table none [] ++ tableMarkup (Node.styledAll children) ++
        endOf .table) = elementTags .table none [] ++ tableTags children := by
      rw [pieceTags_append, pieceTags_append, pieceTags_startOf, pieceTags_tableMarkup,
        pieceTags_endOf, List.append_nil]
    simp only [tableMarkup, List.append_assoc] at htable ⊢
    exact htable
  | footnoteReference label =>
    rw [pieceTags_inElement, pieceTags_footnoteLink]
    exact (List.append_nil _).symm
  | code display language =>
    rw [children_rule_code, pieceTags_inElement, pieceTags_texts]
    rfl
  | hardBreak | thematicBreak | taskListMarker checked =>
    rw [pieceTags_inElement]
    rfl
  | heading level =>
    rw [children_rule_heading, pieceTags_inElement, isVoid_heading]
    exact congrArg _ hrow
  | tableCell header alignment =>
    have hvoid : (NodeKind.tableCell header alignment).element.isVoid = false := by
      cases header <;> rfl
    rw [pieceTags_inElement, hvoid]
    exact congrArg _ hrow
  | _ =>
    rw [pieceTags_inElement]
    exact congrArg _ hrow

end MarkView.Html
