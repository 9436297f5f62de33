import MarkView.Tree.Node
/-!
# Rows of siblings

Text that follows text as a sibling is one leaf, and so is raw HTML that
follows raw HTML. `mergeRow` merges all such neighbours of a row. `putNode`
does it one node at a time, at the end of a row that is kept with its latest
node first, and `mergeRow_eq_foldl` says that this comes to the same.
-/

namespace MarkView

/-- The one leaf that two neighbouring leaves of a sort are. -/
def NodeKind.join? : NodeKind → NodeKind → Option NodeKind
  | .text s, .text t => some (.text (s ++ t))
  | .html s, .html t => some (.html (s ++ t))
  | _, _ => none

/-- Leaves, which nothing can be opened as. -/
def NodeKind.isLeaf : NodeKind → Bool
  | .text _ | .html _ | .softBreak | .hardBreak | .thematicBreak | .taskListMarker _
  | .footnoteReference _ => true
  | _ => false

namespace Node

/-- The one node that two neighbours are. -/
def merge? (first second : Node) : Option Node :=
  (first.kind.join? second.kind).map (⟨·, first.children⟩)

/-- A row with its neighbouring texts merged, and its neighbouring raw HTML. -/
def mergeRow : List Node → List Node
  | [] => []
  | [node] => [node]
  | first :: second :: rest =>
    match first.merge? second with
    | some both => mergeRow (both :: rest)
    | none => first :: mergeRow (second :: rest)
termination_by row => row.length

/-- Put a node at the end of a row, whose latest node comes first. -/
def putNode : List Node → Node → List Node
  | [], node => [node]
  | last :: earlier, node =>
    match last.merge? node with
    | some both => both :: earlier
    | none => node :: last :: earlier

variable {first second third both : Node} {row : List Node}

theorem putNode_of_merge? (h : first.merge? second = some both) :
    putNode (first :: row) second = both :: row := by
  simp [putNode, h]

theorem putNode_of_merge?_none (h : first.merge? second = none) :
    putNode (first :: row) second = second :: first :: row := by
  simp [putNode, h]

theorem merge?_eq_some_iff : first.merge? second = some both ↔
    (∃ s t, first.kind = .text s ∧ second.kind = .text t ∧
      both = ⟨.text (s ++ t), first.children⟩) ∨
    (∃ s t, first.kind = .html s ∧ second.kind = .html t ∧
      both = ⟨.html (s ++ t), first.children⟩) := by
  obtain ⟨k, below⟩ := first
  obtain ⟨k', below'⟩ := second
  unfold merge? NodeKind.join?
  split <;> simp_all [eq_comm]

/-- Elements do not merge. -/
theorem merge?_of_not_isLeaf (h : second.kind.isLeaf = false) : first.merge? second = none := by
  rw [Option.eq_none_iff_forall_ne_some]
  intro both hboth
  rcases merge?_eq_some_iff.mp hboth with ⟨s, t, -, hk, -⟩ | ⟨s, t, -, hk, -⟩ <;>
    simp [hk, NodeKind.isLeaf] at h

/-- **Merging is associative**, and where two pairs of neighbours merge all three
do. -/
theorem merge?_merge? {front back : Node} (hf : first.merge? second = some front)
    (hb : second.merge? third = some back) :
    ∃ all, front.merge? third = some all ∧ first.merge? back = some all := by
  rcases merge?_eq_some_iff.mp hf with ⟨s, t, h1, h2, rfl⟩ | ⟨s, t, h1, h2, rfl⟩ <;>
    rcases merge?_eq_some_iff.mp hb with ⟨t', u, h2', h3, rfl⟩ | ⟨t', u, h2', h3, rfl⟩ <;>
    simp_all [merge?, NodeKind.join?, String.append_assoc]

/-- What does not merge with a leaf does not merge with a longer one either. -/
theorem merge?_eq_none_of_merge? {back : Node} (hf : first.merge? second = none)
    (hb : second.merge? third = some back) : first.merge? back = none := by
  rw [Option.eq_none_iff_forall_ne_some] at hf ⊢
  intro all hall
  rcases merge?_eq_some_iff.mp hb with ⟨t, u, h2, h3, rfl⟩ | ⟨t, u, h2, h3, rfl⟩ <;>
    rcases merge?_eq_some_iff.mp hall with ⟨s, t', h1, h2', -⟩ | ⟨s, t', h1, h2', -⟩ <;>
    simp_all [merge?, NodeKind.join?]

/-- Two nodes that merge can be put in one after the other or as one. -/
theorem putNode_putNode (h : first.merge? second = some both) :
    putNode (putNode row first) second = putNode row both := by
  cases row with
  | nil => exact putNode_of_merge? h
  | cons last earlier =>
    cases hlast : last.merge? first with
    | none =>
      rw [putNode_of_merge?_none hlast, putNode_of_merge? h,
        putNode_of_merge?_none (merge?_eq_none_of_merge? hlast h)]
    | some front =>
      obtain ⟨all, hfront, hback⟩ := merge?_merge? hlast h
      rw [putNode_of_merge? hlast, putNode_of_merge? hfront, putNode_of_merge? hback]

/-- An element that is put into a row stands by itself. -/
theorem putNode_of_not_isLeaf (h : second.kind.isLeaf = false) :
    putNode row second = second :: row := by
  cases row with
  | nil => rfl
  | cons last earlier => exact putNode_of_merge?_none (merge?_of_not_isLeaf h)

theorem foldl_putNode_cons (last : Node) (earlier row : List Node) :
    row.foldl putNode (last :: earlier) = (mergeRow (last :: row)).reverse ++ earlier := by
  induction row generalizing last earlier with
  | nil => simp [mergeRow]
  | cons node rest ih =>
    rw [List.foldl_cons, putNode, mergeRow]
    cases last.merge? node with
    | none => simp [ih]
    | some both => exact ih both earlier

/-- **A row is merged by putting in its nodes one after the other.** -/
theorem mergeRow_eq_foldl (row : List Node) : mergeRow row = (row.foldl putNode []).reverse := by
  cases row with
  | nil => simp [mergeRow]
  | cons node rest => simp [putNode, foldl_putNode_cons]

end Node

end MarkView
