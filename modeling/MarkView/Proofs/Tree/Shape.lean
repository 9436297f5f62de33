import MarkView.Proofs.Tree.Operations
/-!
# The shape of a half-built tree

What is open is an element, and leaves have no children. Every stream keeps a
builder in that shape.
-/

namespace MarkView

/-- A leaf has no children. -/
def Node.Bare (node : Node) : Prop := node.kind.isLeaf = true → node.children = []

namespace Node

theorem bare_leaf (kind : NodeKind) : (leaf kind).Bare := fun _ => rfl

theorem bare_of_not_isLeaf {kind : NodeKind} {children : List Node} (h : kind.isLeaf = false) :
    Bare ⟨kind, children⟩ := fun hleaf => absurd (h.symm.trans hleaf) Bool.false_ne_true

/-- Two leaves that merge are one without children. -/
theorem Bare.merge? {first second both : Node} (hfirst : first.Bare)
    (h : first.merge? second = some both) : both.Bare := by
  rcases merge?_eq_some_iff.mp h with ⟨s, t, hk, -, rfl⟩ | ⟨s, t, hk, -, rfl⟩ <;>
    exact fun _ => hfirst (by rw [hk]; rfl)

theorem bare_putNode {row : List Node} {node : Node} (hrow : ∀ n ∈ row, n.Bare)
    (hnode : node.Bare) : ∀ n ∈ putNode row node, n.Bare := by
  cases row with
  | nil => simpa [putNode] using hnode
  | cons last earlier =>
    simp only [List.forall_mem_cons] at hrow
    cases h : last.merge? node with
    | none =>
      rw [putNode_of_merge?_none h]
      exact List.forall_mem_cons.mpr ⟨hnode, List.forall_mem_cons.mpr hrow⟩
    | some both =>
      rw [putNode_of_merge? h]
      exact List.forall_mem_cons.mpr ⟨hrow.1.merge? h, hrow.2⟩

end Node

namespace Builder

variable {b : Builder} {kind : NodeKind} {f : List Node → List Node}

/-- The invariant of every builder: what is open is an element, and the leaves
so far have no children. -/
structure Shaped (b : Builder) : Prop where
  kinds : ∀ frame ∈ b.opened, frame.kind.isLeaf = false
  rows : ∀ frame ∈ b.opened, ∀ node ∈ frame.children, node.Bare
  root : ∀ node ∈ b.root, node.Bare

theorem Shaped.init (limit : Option Nat) : Shaped { limit } :=
  ⟨by simp, by simp, by simp⟩

theorem Shaped.withTable (h : b.Shaped) (place : TablePlace) :
    Shaped { b with table := place } := ⟨h.kinds, h.rows, h.root⟩

theorem Shaped.updateChildren (h : b.Shaped)
    (hf : ∀ row : List Node, (∀ n ∈ row, n.Bare) → ∀ n ∈ f row, n.Bare) :
    (b.updateChildren f).Shaped := by
  obtain ⟨opened, root, table, flattened, limit⟩ := b
  obtain ⟨hkinds, hrows, hroot⟩ := h
  cases opened with
  | nil => exact ⟨hkinds, hrows, hf root hroot⟩
  | cons frame outer =>
    simp only [List.forall_mem_cons] at hkinds hrows
    refine ⟨?_, ?_, hroot⟩
    · exact List.forall_mem_cons.mpr hkinds
    · exact List.forall_mem_cons.mpr ⟨hf frame.children hrows.1, hrows.2⟩

theorem Shaped.put (h : b.Shaped) : (b.put kind).Shaped :=
  h.updateChildren fun _ hrow => Node.bare_putNode hrow (Node.bare_leaf kind)

theorem Shaped.openElement (h : b.Shaped) (hkind : kind.isLeaf = false) :
    (b.openElement kind).Shaped := by
  unfold Builder.openElement
  split
  · exact ⟨List.forall_mem_cons.mpr ⟨hkind, h.kinds⟩,
      List.forall_mem_cons.mpr ⟨by simp, h.rows⟩, h.root⟩
  · exact ⟨h.kinds, h.rows, h.root⟩

theorem Shaped.closeElement (h : b.Shaped) : b.closeElement.Shaped := by
  obtain ⟨opened, root, table, flattened, limit⟩ := b
  unfold Builder.closeElement
  split
  · exact ⟨h.kinds, h.rows, h.root⟩
  · cases opened with
    | nil => exact h
    | cons frame outer =>
      obtain ⟨hkinds, hrows, hroot⟩ := h
      simp only [List.forall_mem_cons] at hkinds hrows
      refine Shaped.updateChildren ⟨hkinds.2, hrows.2, hroot⟩ fun row hrow => ?_
      exact List.forall_mem_cons.mpr ⟨Node.bare_of_not_isLeaf hkinds.1, hrow⟩

/-- **Every event keeps the shape.** -/
theorem Shaped.push (h : b.Shaped) (event : Event) : (b.push event).Shaped :=
  push_induction (fun place h => h.withTable place) (fun hkind h => h.openElement hkind)
    (fun h => h.closeElement) (fun _ h => h.put) h event

theorem Shaped.foldl (h : b.Shaped) (events : List Event) :
    (events.foldl Builder.push b).Shaped := by
  induction events generalizing b with
  | nil => exact h
  | cons event rest ih => exact ih (h.push event)

end Builder

end MarkView
