import MarkView.Tree.Kind
/-!
# Document trees

A `Node` is a kind with an ordered list of children. Any kind may have children;
which do is decided by whoever builds the tree.
-/

namespace MarkView

/-- A node of a document tree. -/
structure Node where
  kind : NodeKind
  children : List Node
  deriving Inhabited

namespace Node

/-- What holds of a node if it holds of its children holds of every tree. -/
@[elab_as_elim]
theorem induction {motive : Node → Prop}
    (node : ∀ kind children, (∀ child ∈ children, motive child) → motive ⟨kind, children⟩) :
    ∀ tree, motive tree
  | ⟨kind, children⟩ => node kind children fun child _ => induction node child

/-- A node without children. -/
def leaf (kind : NodeKind) : Node := ⟨kind, []⟩

/-- The empty document. -/
def empty : Node := leaf .document

mutual

/-- The literal texts below and at a node, in document order. -/
def leafText : Node → List String
  | ⟨kind, children⟩ => kind.literal?.toList ++ leafTexts children

/-- The literal texts of a row of nodes. -/
def leafTexts : List Node → List String
  | [] => []
  | node :: rest => node.leafText ++ leafTexts rest

end

mutual

/-- The number of nodes of a tree, its root included. -/
def count : Node → Nat
  | ⟨_, children⟩ => 1 + countAll children

/-- The number of nodes of a row of trees. -/
def countAll : List Node → Nat
  | [] => 0
  | node :: rest => node.count + countAll rest

end

end Node

end MarkView
