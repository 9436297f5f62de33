import MarkView.Json.Tree
import MarkView.Proofs.Json.Written
/-!
# Trees are got back from their JSON

The JSON of a styled tree loses nothing of it (`ofText?_text`): its text is read by a reader that
knows only JSON, and the tree by its fields. Every kind is got back with its payload, every rule
with what it lacks, and the children of a node also where there are none and their field is left
out.
-/

namespace MarkView

/-! ## Kinds and rules -/

/-- **A kind is got back from its JSON**, with its payload. -/
theorem NodeKind.ofJson?_toJson (kind : NodeKind) : ofJson? kind.toJson = some kind := by
  cases kind with
  | code display language => cases display <;> cases language <;> rfl
  | tableCell header alignment => cases alignment <;> rfl
  | _ => rfl

theorem Container.ofJson?_toJson (container : Container) :
    ofJson? container.toJson = some container := by
  change (do
    let element ← Element.ofName? container.element.name
    return (⟨element, container.cssClass⟩ : Container)) = _
  rw [Element.ofName?_name]
  rfl

theorem ChildPolicy.ofName?_name (policy : ChildPolicy) : ofName? policy.name = some policy := by
  cases policy <;> rfl

theorem Json.optional?_ofOptional (text : Option String) :
    (Json.ofOptional text).optional? = some text := by
  cases text <;> rfl

/-- **A rule is got back from its JSON**, with or without a class and a container. -/
theorem StyleRule.ofJson?_toJson (rule : StyleRule) : ofJson? rule.toJson = some rule := by
  obtain ⟨cssClass, container, children⟩ := rule
  cases container with
  | none =>
    change (do
      let cssClass ← (Json.ofOptional cssClass).optional?
      let children ← ChildPolicy.ofName? children.name
      return ({ cssClass, children } : StyleRule)) = _
    rw [Json.optional?_ofOptional, ChildPolicy.ofName?_name]
    rfl
  | some container =>
    change (do
      let cssClass ← (Json.ofOptional cssClass).optional?
      let container ← (Container.ofJson? container.toJson).map some
      let children ← ChildPolicy.ofName? children.name
      return ({ cssClass, container, children } : StyleRule)) = _
    rw [Json.optional?_ofOptional, Container.ofJson?_toJson, ChildPolicy.ofName?_name]
    rfl

namespace StyledNode

/-! ## Trees -/

/-- The trees of a row are got back if each of them is. -/
theorem ofJsonAll?_toJsonAll {trees : List StyledNode}
    (h : ∀ tree ∈ trees, ofJson? tree.toJson = some tree) :
    ofJsonAll? (toJsonAll trees) = some trees := by
  induction trees with
  | nil => rfl
  | cons tree rest ih =>
    obtain ⟨htree, hrest⟩ := List.forall_mem_cons.mp h
    rw [toJsonAll, ofJsonAll?, htree, ih hrest]
    rfl

/-- Children are got back from their field, and from there being none. -/
theorem childrenOfFields?_childrenField {children : List StyledNode}
    (h : ofJsonAll? (toJsonAll children) = some children) :
    childrenOfFields? (childrenField (toJsonAll children)) = some children := by
  cases children with
  | nil => rfl
  | cons child rest => exact h

/-- **A tree is got back from its JSON.** -/
theorem ofJson?_toJson (tree : StyledNode) : ofJson? tree.toJson = some tree := by
  induction tree using induction with
  | node kind rule children ih =>
    rw [toJson, ofJson?]
    change (do
      let kind ← NodeKind.ofJson? kind.toJson
      let rule ← StyleRule.ofJson? rule.toJson
      let children ← childrenOfFields? (childrenField (toJsonAll children))
      return (⟨kind, rule, children⟩ : StyledNode)) = _
    rw [NodeKind.ofJson?_toJson, StyleRule.ofJson?_toJson,
      childrenOfFields?_childrenField (ofJsonAll?_toJsonAll ih)]
    rfl

/-! ## Texts -/

/-- The styled tree that a text of JSON stands for. -/
def ofText? (text : String) : Option StyledNode := (Json.read? text).bind ofJson?

/-- A tree is got back from its text, with any blanks after it. -/
theorem ofText?_append (tree : StyledNode) {after : String}
    (hafter : ∀ c ∈ after.toList, c ∈ Json.blanks) :
    ofText? (tree.toJson.text ++ after) = some tree := by
  rw [ofText?, Json.read?_text tree.toJson hafter]
  exact ofJson?_toJson tree

/-- **The text of a styled tree loses nothing of it.** The text of the tree of every document is
read back as that tree, and so is the text of any styled tree, with the line break that is printed
after it. So no two styled trees have the same text. -/
theorem ofText?_text :
    (∀ tree : Node, ofText? tree.styled.toJson.text = some tree.styled) ∧
    (∀ tree : StyledNode, ofText? (tree.toJson.text ++ "\n") = some tree) ∧
    ∀ tree other : StyledNode, tree.toJson.text = other.toJson.text ↔ tree = other := by
  have htext (tree : StyledNode) : ofText? tree.toJson.text = some tree := by
    have hread : ofText? (tree.toJson.text ++ "") = some tree := ofText?_append tree (by simp)
    rwa [String.append_empty] at hread
  refine ⟨fun tree => htext tree.styled, fun tree => ofText?_append tree (by simp [Json.blanks]),
    fun tree other => ⟨fun hsame => ?_, fun h => by rw [h]⟩⟩
  have hread := htext tree
  rw [hsame, htext other] at hread
  exact (Option.some.inj hread).symm

end StyledNode

end MarkView
