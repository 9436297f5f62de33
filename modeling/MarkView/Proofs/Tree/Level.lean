import MarkView.Proofs.Tree.Normal
/-!
# The form of every built tree

Whatever the stream, tables or not, balanced or not, the tree that it is built to is well formed
(`wellFormed_ofEvents`). What this adds to the normal form is where in the tree a node can stand:
nesting counts elements from the bottom of a tree, and levels count nodes from its root. A walk
that goes down one level at a time therefore ends after `maxDepth + 1` of them, and what stands on
the last level is a leaf.
-/

namespace MarkView.Node

variable {node tree : Node} {children : List Node} {level top : Nat}

mutual

/-- The nodes of a tree in document order, each with its level. -/
def levels (level : Nat) : Node → List (Nat × Node)
  | ⟨kind, children⟩ => (level, ⟨kind, children⟩) :: levelsAll (level + 1) children

/-- The nodes of a row of trees in document order, each with its level. -/
def levelsAll (level : Nat) : List Node → List (Nat × Node)
  | [] => []
  | node :: rest => node.levels level ++ levelsAll level rest

end

/-- **The form that a walk over a tree relies on.** The root is the only document, no element lies
deeper than `maxDepth` and no leaf deeper than one level below, leaves have no children, neither
two texts nor two pieces of raw HTML are neighbours, inline code is just a text, and headings have
six levels. -/
structure WellFormed (tree : Node) : Prop where
  root : tree.kind = .document
  document : ∀ node ∈ preorderAll tree.children, node.kind ≠ .document
  element_level : ∀ level node, (level, node) ∈ tree.levels 0 →
    node.children ≠ [] ∨ node.kind.isLeaf = false → level ≤ maxDepth
  level : ∀ level node, (level, node) ∈ tree.levels 0 → level ≤ maxDepth + 1
  leaf : ∀ node ∈ tree.preorder, node.kind.isLeaf = true → node.children = []
  neighbours : ∀ node ∈ tree.preorder, node.children.IsChain fun first second =>
    ¬ (first.kind.type = .text ∧ second.kind.type = .text) ∧
      ¬ (first.kind.type = .html ∧ second.kind.type = .html)
  inlineCode : ∀ node ∈ tree.preorder, ∀ language, node.kind = .code .inline language →
    language = none ∧ ∃ content, node.children = [Node.leaf (.text content)]
  heading : ∀ node ∈ tree.preorder, ∀ level, node.kind = .heading level → 1 ≤ level ∧ level ≤ 6

/-! ## Levels -/

theorem mem_levelsAll {place : Nat × Node} :
    place ∈ levelsAll level children ↔ ∃ child ∈ children, place ∈ child.levels level := by
  induction children with
  | nil => simp [levelsAll]
  | cons child rest ih => simp [levelsAll, ih]

/-- What has a level in a tree is a node of it. -/
theorem mem_preorder_of_mem_levels (h : (level, node) ∈ tree.levels top) :
    node ∈ tree.preorder := by
  induction tree using Node.induction generalizing top with
  | node kind children ih =>
    rw [preorder, List.mem_cons]
    rw [levels, List.mem_cons] at h
    rcases h with h | h
    · exact .inl (Prod.ext_iff.mp h).2
    · obtain ⟨child, hchild, h⟩ := mem_levelsAll.mp h
      exact .inr (mem_preorderAll.mpr ⟨child, hchild, ih child hchild h⟩)

/-- **The nesting of a tree bounds its levels**: an element takes one up, and a leaf, having
nothing below it, takes none. -/
theorem level_le_of_mem_levels (hbare : ∀ n ∈ tree.preorder, n.Bare)
    (h : (level, node) ∈ tree.levels top) :
    level ≤ top + tree.nesting ∧ (node.kind.isLeaf = false → level < top + tree.nesting) := by
  induction tree using Node.induction generalizing top with
  | node kind children ih =>
    rw [preorder, List.forall_mem_cons] at hbare
    rw [levels, List.mem_cons] at h
    rw [nesting]
    rcases h with h | h
    · obtain ⟨rfl, rfl⟩ := Prod.mk.inj h
      refine ⟨Nat.le_add_right _ _, fun hleaf => ?_⟩
      simp only at hleaf
      rw [hleaf]
      exact Nat.lt_add_of_pos_right (Nat.succ_pos _)
    · obtain ⟨child, hchild, h⟩ := mem_levelsAll.mp h
      have hleaf : ¬ kind.isLeaf = true := fun hleaf => by
        have hnone : children = [] := hbare.1 hleaf
        rw [hnone] at hchild
        cases hchild
      have hbelow : ∀ n ∈ child.preorder, n.Bare := fun n hn =>
        hbare.2 n (mem_preorderAll.mpr ⟨child, hchild, hn⟩)
      have hnesting : child.nesting ≤ nestingAll children :=
        nestingAll_le_iff.mp (Nat.le_refl _) child hchild
      obtain ⟨hle, hlt⟩ := ih child hchild hbelow h
      rw [if_neg hleaf]
      exact ⟨by omega, fun helement => by have := hlt helement; omega⟩

/-! ## Built trees -/

/-- What holds of the root and of every sound node holds of all nodes of a tree in normal form. -/
theorem Normal.forall_preorder {K : NodeKind → Prop} {P : Node → Prop} (h : tree.Normal K)
    (root : P tree) (below : ∀ node, node.Sound K → P node) : ∀ node ∈ tree.preorder, P node := by
  obtain ⟨kind, children⟩ := tree
  rw [preorder, List.forall_mem_cons]
  exact ⟨root, fun node hnode => below node (h.nodes node hnode)⟩

theorem Normal.isLeaf_root {K : NodeKind → Prop} (h : tree.Normal K) :
    tree.kind.isLeaf = false := by
  rw [h.root]
  rfl

theorem Normal.bare {K : NodeKind → Prop} (h : tree.Normal K) : ∀ node ∈ tree.preorder, node.Bare :=
  h.forall_preorder (bare_of_not_isLeaf h.isLeaf_root) fun _ hnode => hnode.bare

/-- In a tree in normal form elements lie within the limit, and nothing lies below them but
leaves. -/
theorem Normal.level_le {K : NodeKind → Prop} (h : tree.Normal K)
    (hplace : (level, node) ∈ tree.levels 0) :
    level ≤ maxDepth + 1 ∧ (node.kind.isLeaf = false → level ≤ maxDepth) := by
  have hnesting : tree.nesting ≤ maxDepth + 1 := by
    have hroot := h.isLeaf_root
    obtain ⟨kind, children⟩ := tree
    rw [Node.nesting, if_neg (Bool.eq_false_iff.mp hroot)]
    exact Nat.succ_le_succ h.nesting
  obtain ⟨hle, hlt⟩ := level_le_of_mem_levels h.bare hplace
  exact ⟨by omega, fun helement => by have := hlt helement; omega⟩

theorem text_of_type {kind : NodeKind} (h : kind.type = .text) :
    ∃ content, kind = .text content := by
  cases kind <;> first | exact ⟨_, rfl⟩ | cases h

theorem html_of_type {kind : NodeKind} (h : kind.type = .html) :
    ∃ content, kind = .html content := by
  cases kind <;> first | exact ⟨_, rfl⟩ | cases h

/-- Two texts can be merged, and so can two pieces of raw HTML. -/
theorem not_type_of_merge?_eq_none {first second : Node} (h : first.merge? second = none) :
    ¬ (first.kind.type = .text ∧ second.kind.type = .text) ∧
      ¬ (first.kind.type = .html ∧ second.kind.type = .html) := by
  constructor
  · rintro ⟨hfirst, hsecond⟩
    obtain ⟨s, hs⟩ := text_of_type hfirst
    obtain ⟨t, ht⟩ := text_of_type hsecond
    rw [merge?_eq_some_iff.mpr (.inl ⟨s, t, hs, ht, rfl⟩)] at h
    cases h
  · rintro ⟨hfirst, hsecond⟩
    obtain ⟨s, hs⟩ := html_of_type hfirst
    obtain ⟨t, ht⟩ := html_of_type hsecond
    rw [merge?_eq_some_iff.mpr (.inr ⟨s, t, hs, ht, rfl⟩)] at h
    cases h

/-- **A tree in normal form is well formed**, if an event can make each of its kinds. -/
theorem Normal.wellFormed (h : tree.Normal NodeKind.Proper) : tree.WellFormed where
  root := h.root
  document := fun node hnode hkind => by
    have hproper := (h.nodes node hnode).kind
    rw [hkind] at hproper
    exact hproper
  element_level := fun level node hplace hnode => by
    refine (h.level_le hplace).2 (Bool.eq_false_iff.mpr fun hleaf => ?_)
    rcases hnode with hchildren | helement
    · exact hchildren (h.bare node (mem_preorder_of_mem_levels hplace) hleaf)
    · exact Bool.false_ne_true (helement.symm.trans hleaf)
  level := fun _ _ hplace => (h.level_le hplace).1
  leaf := h.bare
  neighbours := h.forall_preorder (h.separate.imp fun _ _ => not_type_of_merge?_eq_none)
    fun _ hnode => hnode.separate.imp fun _ _ => not_type_of_merge?_eq_none
  inlineCode := h.forall_preorder (fun _ hkind => by cases h.root.symm.trans hkind)
    fun node hnode language hkind => by
      have hproper := hnode.kind
      rw [hkind] at hproper
      exact ⟨hproper, hnode.inlineCode (by rw [hkind]; rfl)⟩
  heading := h.forall_preorder (fun _ hkind => by cases h.root.symm.trans hkind)
    fun node hnode level hkind => by
      have hproper := hnode.kind
      rw [hkind] at hproper
      exact hproper

/-- **The tree of every stream is well formed.** -/
theorem wellFormed_ofEvents (events : List Event) : (ofEvents events).WellFormed :=
  (normal_proper_ofEvents events).wellFormed

end MarkView.Node
