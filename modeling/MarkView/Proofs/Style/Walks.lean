import MarkView.Style.StyledNode
/-!
# Walks over a styled tree

Styling adds a rule to every node of a tree and changes nothing else. The walks over the styled
tree then all agree: that with a stack meets the nodes in the order of the recursion, there are as
many of them as are counted, and their literal texts are those of the tree (`walks_styled`).

The stack is what has to be generalised over. From any stack on, a walk meets the trees that lie on
it, from its top down, each in document order (`walk_eq_preorderAll`).
-/

namespace MarkView.StyledNode

/-! ## Forgetting the rules -/

mutual

/-- **Styling keeps the tree.** -/
theorem node_styled : ∀ tree : Node, tree.styled.node = tree
  | ⟨kind, children⟩ => by rw [Node.styled, node, nodes_styledAll children]

theorem nodes_styledAll : ∀ row : List Node, nodes (Node.styledAll row) = row
  | [] => rfl
  | tree :: rest => by rw [Node.styledAll, nodes, node_styled tree, nodes_styledAll rest]

end

mutual

/-- Styling keeps the number of nodes. -/
theorem count_styled : ∀ tree : Node, tree.styled.count = tree.count
  | ⟨kind, children⟩ => by rw [Node.styled, count, Node.count, countAll_styledAll children]

theorem countAll_styledAll :
    ∀ row : List Node, countAll (Node.styledAll row) = Node.countAll row
  | [] => rfl
  | tree :: rest => by
    rw [Node.styledAll, countAll, Node.countAll, count_styled tree, countAll_styledAll rest]

end

/-! ## Document order -/

theorem mem_preorderAll {node : StyledNode} {row : List StyledNode} :
    node ∈ preorderAll row ↔ ∃ tree ∈ row, node ∈ tree.preorder := by
  induction row with
  | nil => simp [preorderAll]
  | cons tree rest ih => simp [preorderAll, ih]

theorem preorderAll_append (xs ys : List StyledNode) :
    preorderAll (xs ++ ys) = preorderAll xs ++ preorderAll ys := by
  induction xs with
  | nil => rfl
  | cons x rest ih => rw [List.cons_append, preorderAll, preorderAll, ih, List.append_assoc]

mutual

/-- There are as many nodes in document order as are counted. -/
theorem length_preorder : ∀ tree : StyledNode, tree.preorder.length = tree.count
  | ⟨kind, rule, children⟩ => by
    rw [preorder, count, List.length_cons, length_preorderAll children, Nat.add_comm]

theorem length_preorderAll :
    ∀ row : List StyledNode, (preorderAll row).length = countAll row
  | [] => rfl
  | tree :: rest => by
    rw [preorderAll, countAll, List.length_append, length_preorder tree, length_preorderAll rest]

end

mutual

/-- The literal texts of the nodes in document order are those of the tree. -/
theorem filterMap_literal?_preorder :
    ∀ tree : StyledNode, tree.preorder.filterMap (·.kind.literal?) = tree.leafText
  | ⟨kind, rule, children⟩ => by
    rw [preorder, leafText, ← filterMap_literal?_preorderAll children, List.filterMap_cons]
    cases kind.literal? <;> rfl

theorem filterMap_literal?_preorderAll :
    ∀ row : List StyledNode, (preorderAll row).filterMap (·.kind.literal?) = leafTexts row
  | [] => rfl
  | tree :: rest => by
    rw [preorderAll, leafTexts, List.filterMap_append, filterMap_literal?_preorder tree,
      filterMap_literal?_preorderAll rest]

end

/-- **Every node of a styled tree has the rule of its kind**, at any depth. -/
theorem rule_of_mem_preorder {tree : Node} :
    ∀ node ∈ tree.styled.preorder, node.rule = node.kind.rule := by
  induction tree using Node.induction with
  | node kind children ih =>
    intro node hnode
    rw [Node.styled, preorder, List.mem_cons] at hnode
    rcases hnode with rfl | hbelow
    · rfl
    · rw [Node.styledAll_eq_map] at hbelow
      obtain ⟨child, hchild, hnode⟩ := mem_preorderAll.mp hbelow
      obtain ⟨tree, htree, rfl⟩ := List.mem_map.mp hchild
      exact ih tree htree node hnode

/-! ## The walk with a stack -/

/-- The stack after some steps of a walk. A walk that has come to its end stays there. -/
def stackAfter (stack : List StyledNode) : Nat → List StyledNode
  | 0 => stack
  | steps + 1 =>
    match next? stack with
    | none => stack
    | some (_, rest) => stackAfter rest steps

/-- One step of a walk puts the children of a node where the node was. -/
theorem preorderAll_next? {stack rest : List StyledNode} {node : StyledNode}
    (h : next? stack = some (node, rest)) : preorderAll stack = node :: preorderAll rest := by
  cases stack with
  | nil => cases h
  | cons top below =>
    obtain ⟨rfl, rfl⟩ := Prod.mk.inj (Option.some.inj h)
    obtain ⟨kind, rule, children⟩ := top
    rw [pushAll_reverse, preorderAll_append, preorderAll, preorder, List.cons_append]

/-- **From any stack on, a walk meets the trees on the stack in document order.** -/
theorem walk_eq_preorderAll (stack : List StyledNode) : walk stack = preorderAll stack := by
  induction stack using walk.induct with
  | case1 stack hend =>
    rw [walk, hend]
    cases stack with
    | nil => rfl
    | cons top below => cases hend
  | case2 stack node rest hstep ih =>
    rw [walk, hstep, preorderAll_next? hstep]
    exact congrArg (node :: ·) ih

/-- A walk from a tree meets the tree in document order. -/
theorem descendants_eq_preorder (tree : StyledNode) : tree.descendants = tree.preorder := by
  rw [descendants, walk_eq_preorderAll, preorderAll, preorderAll, List.append_nil]

/-- **What a walk meets step by step**: after some steps, the next is the one of that place in
document order, and after as many as there are nodes there is none. -/
theorem next?_stackAfter (stack : List StyledNode) (steps : Nat) :
    (next? (stackAfter stack steps)).map (·.1) = (preorderAll stack)[steps]? := by
  induction steps generalizing stack with
  | zero =>
    cases stack with
    | nil => rfl
    | cons top below =>
      have hstep : next? (top :: below) = some (top, pushAll below top.children.reverse) := rfl
      rw [stackAfter, preorderAll_next? hstep]
      rfl
  | succ steps ih =>
    rw [stackAfter]
    cases hstep : next? stack with
    | none =>
      cases stack with
      | nil => rfl
      | cons top below => cases hstep
    | some found =>
      obtain ⟨node, rest⟩ := found
      rw [preorderAll_next? hstep, List.getElem?_cons_succ]
      exact ih rest

/-- **Styling keeps a tree, and the walks over it agree.** Without its rules a styled tree is the
tree that was styled. A walk with a stack meets just the nodes of the recursion in its order, step
by step until there is none, and so as many as both trees count. Their literal texts are those of
both trees, and each of them has the rule of its own kind. -/
theorem walks_styled (tree : Node) :
    tree.styled.node = tree ∧
    (∀ steps, (next? (stackAfter [tree.styled] steps)).map (·.1) =
      tree.styled.preorder[steps]?) ∧
    tree.styled.descendants = tree.styled.preorder ∧
    tree.styled.descendants.length = tree.styled.count ∧ tree.styled.count = tree.count ∧
    tree.styled.descendants.filterMap (·.kind.literal?) = tree.styled.leafText ∧
    tree.styled.leafText = tree.leafText ∧
    ∀ node ∈ tree.styled.descendants,
      node.rule = styleFor node.kind.type node.kind.styleContext := by
  refine ⟨node_styled tree, fun steps => ?_, descendants_eq_preorder _, ?_, count_styled tree, ?_,
    leafText_styled tree, ?_⟩
  · rw [next?_stackAfter, preorderAll, preorderAll, List.append_nil]
  · rw [descendants_eq_preorder, length_preorder]
  · rw [descendants_eq_preorder, filterMap_literal?_preorder]
  · rw [descendants_eq_preorder]
    exact rule_of_mem_preorder

/-- Siblings on several levels are met from the left: the first of them with all that is below it,
and only then the next. -/
example : (Node.styled ⟨.document, [⟨.strong, [.leaf (.text "a"), .leaf .hardBreak]⟩,
    ⟨.emphasis, [.leaf (.text "b")]⟩]⟩).descendants.map (·.kind) =
      [.document, .strong, .text "a", .hardBreak, .emphasis, .text "b"] := by
  rw [descendants_eq_preorder]
  decide

end MarkView.StyledNode
