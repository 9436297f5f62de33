import MarkView.Style.Rule
import MarkView.Tree.Node
/-!
# Styled trees

A `StyledNode` tree is a document tree with a style rule on every node. Styling
keeps the shape of the tree. The walks over it are the literal texts, the number
of nodes, and the nodes themselves in document order, once by recursion and once
with an explicit stack.
-/

namespace MarkView

/-- A node with the rule that it is dressed by. -/
structure StyledNode where
  kind : NodeKind
  rule : StyleRule
  children : List StyledNode
  deriving Inhabited

mutual

/-- Give every node of a tree the rule of its kind. -/
def Node.styled : Node → StyledNode
  | ⟨kind, children⟩ => ⟨kind, kind.rule, Node.styledAll children⟩

/-- Style a row of trees. -/
def Node.styledAll : List Node → List StyledNode
  | [] => []
  | node :: rest => node.styled :: Node.styledAll rest

end

theorem Node.styledAll_eq_map (nodes : List Node) : Node.styledAll nodes = nodes.map styled := by
  induction nodes with
  | nil => rfl
  | cons node rest ih => rw [Node.styledAll, List.map_cons, ih]

@[simp] theorem Node.kind_styled (node : Node) : node.styled.kind = node.kind := by
  cases node
  rw [Node.styled]

namespace StyledNode

/-- What holds of a node if it holds of its children holds of every tree. -/
@[elab_as_elim]
theorem induction {motive : StyledNode → Prop}
    (node : ∀ kind rule children, (∀ child ∈ children, motive child) →
      motive ⟨kind, rule, children⟩) :
    ∀ tree, motive tree
  | ⟨kind, rule, children⟩ => node kind rule children fun child _ => induction node child

mutual

/-- Forget the rules of a styled tree. -/
def node : StyledNode → Node
  | ⟨kind, _, children⟩ => ⟨kind, nodes children⟩

/-- Forget the rules of a row of styled trees. -/
def nodes : List StyledNode → List Node
  | [] => []
  | node :: rest => node.node :: nodes rest

end

mutual

/-- The literal texts below and at a node, in document order. -/
def leafText : StyledNode → List String
  | ⟨kind, _, children⟩ => kind.literal?.toList ++ leafTexts children

/-- The literal texts of a row of nodes. -/
def leafTexts : List StyledNode → List String
  | [] => []
  | node :: rest => node.leafText ++ leafTexts rest

end

mutual

/-- Styling keeps the literal texts. -/
theorem leafText_styled : ∀ node : Node, node.styled.leafText = node.leafText
  | ⟨kind, children⟩ => by
    rw [Node.styled, leafText, Node.leafText, leafTexts_styledAll children]

theorem leafTexts_styledAll :
    ∀ nodes : List Node, leafTexts (Node.styledAll nodes) = Node.leafTexts nodes
  | [] => rfl
  | node :: rest => by
    rw [Node.styledAll, leafTexts, Node.leafTexts, leafText_styled node,
      leafTexts_styledAll rest]

end

/-- All literal text of a tree. -/
def plainText (node : StyledNode) : String := String.join node.leafText

mutual

/-- The number of nodes of a tree, its root included. -/
def count : StyledNode → Nat
  | ⟨_, _, children⟩ => 1 + countAll children

/-- The number of nodes of a row of trees. -/
def countAll : List StyledNode → Nat
  | [] => 0
  | node :: rest => node.count + countAll rest

end

mutual

/-- The nodes of a tree in document order, its root first. -/
def preorder : StyledNode → List StyledNode
  | ⟨kind, rule, children⟩ => ⟨kind, rule, children⟩ :: preorderAll children

/-- The nodes of a row of trees in document order. -/
def preorderAll : List StyledNode → List StyledNode
  | [] => []
  | node :: rest => node.preorder ++ preorderAll rest

end

@[simp] theorem countAll_append (xs ys : List StyledNode) :
    countAll (xs ++ ys) = countAll xs + countAll ys := by
  induction xs with
  | nil => simp [countAll]
  | cons x rest ih => simp [countAll, ih]; omega

/-- Push nodes on a stack, one after the other. The top of a stack is its head. -/
def pushAll (stack nodes : List StyledNode) : List StyledNode :=
  nodes.foldl (fun stack node => node :: stack) stack

/-- A row that is pushed from its end comes to lie on the stack in order. -/
@[simp] theorem pushAll_reverse (stack nodes : List StyledNode) :
    pushAll stack nodes.reverse = nodes ++ stack := by
  simp [pushAll]

/-- One step of a walk: the top of the stack is met, and its children go on the stack in its
place. They are pushed from the last to the first, so that the first of them is met next. -/
def next? : List StyledNode → Option (StyledNode × List StyledNode)
  | [] => none
  | node :: stack => some (node, pushAll stack node.children.reverse)

/-- A step leaves fewer nodes to be met. -/
theorem countAll_next? {stack rest : List StyledNode} {node : StyledNode}
    (h : next? stack = some (node, rest)) : countAll stack = countAll rest + 1 := by
  cases stack with
  | nil => cases h
  | cons top below =>
    obtain ⟨rfl, rfl⟩ := Prod.mk.inj (Option.some.inj h)
    obtain ⟨kind, rule, children⟩ := top
    simp only [pushAll_reverse, countAll_append, countAll, count]
    omega

/-- The nodes that a walk meets from a stack on. -/
def walk (stack : List StyledNode) : List StyledNode :=
  match _h : next? stack with
  | none => []
  | some (node, rest) => node :: walk rest
termination_by countAll stack
decreasing_by
  rw [countAll_next? _h]
  exact Nat.lt_succ_self _

/-- The nodes of a tree in the order in which a walk meets them. -/
def descendants (node : StyledNode) : List StyledNode := walk [node]

end StyledNode

end MarkView
