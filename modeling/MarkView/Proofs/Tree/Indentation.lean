import MarkView.Proofs.Tree.Level
import MarkView.Proofs.Tree.Outline
/-!
# An outline shows the shape of its tree

Each node below the root has one line of the outline, in document order, indented by two spaces
for every level above its own (`outline_lines`). No text of the user's can add a line or move one,
since every label is on one line and begins with something other than a space
(`unbroken_outlineLabel`). So the levels of the nodes are read off the lines, and these determine
the shape of the tree: a node is followed by its children just as long as the levels stay below
its own (`shapeAll_eq_of_depths`).
-/

namespace MarkView

/-- The form of a tree, whatever its nodes are. -/
inductive Shape
  | node (children : List Shape)

/-- A line that begins with a number of spaces, and goes on with something else. -/
def IndentedBy (indent : Nat) (line : List Char) : Prop :=
  ∃ c rest, line = List.replicate indent ' ' ++ c :: rest ∧ c ≠ ' '

/-- How far a line is indented. -/
def indentation (line : List Char) : Nat := (line.takeWhile (· = ' ')).length

theorem IndentedBy.indentation_eq {indent : Nat} {line : List Char} (h : IndentedBy indent line) :
    indentation line = indent := by
  obtain ⟨c, rest, rfl, hc⟩ := h
  rw [indentation, List.takeWhile_append_of_pos (by simp), List.takeWhile_cons_of_neg (by simpa)]
  simp

/-- Lines are got back from the text that they make. -/
theorem linesOf_join {lines : List (List Char)} (h : ∀ line ∈ lines, '\n' ∉ line) :
    linesOf (String.join (lines.map fun line => String.ofList line ++ "\n")) = lines := by
  induction lines with
  | nil => exact linesOf_empty
  | cons line rest ih =>
    obtain ⟨hline, hrest⟩ := List.forall_mem_cons.mp h
    have hbreak : '\n' ∉ (String.ofList line).toList := by simpa using hline
    rw [List.map_cons, String.join_cons, linesOf_cons hbreak, ih hrest, String.toList_ofList]

/-! ## Labels -/

section Labels

variable {kind : NodeKind}

/-- A label that is quoted. -/
theorem exists_quote_of_label?_none (hkind : kind.Proper) (h : kind.label? = none) :
    ∃ s, outlineLabel kind kind.rule = Text.quote s := by
  cases kind with
  | document => exact hkind.elim
  | text content | html content => exact ⟨content, rfl⟩
  | softBreak => exact ⟨"\n", rfl⟩
  | _ => cases h

/-- **Every label is on one line, and begins with something other than a space.** -/
theorem unbroken_outlineLabel (hkind : kind.Proper) :
    '\n' ∉ (outlineLabel kind kind.rule).toList ∧
      ∃ c rest, (outlineLabel kind kind.rule).toList = c :: rest ∧ c ≠ ' ' := by
  cases hlabel : kind.label? with
  | none =>
    obtain ⟨s, hs⟩ := exists_quote_of_label?_none hkind hlabel
    rw [hs]
    exact ⟨newline_notMem_quote s, _, _, String.toList_ofList, by decide⟩
  | some label =>
    have hplain := plain_of_label? hkind hlabel
    obtain ⟨c, rest, hhead, hspace, -⟩ := hplain.head
    rw [outlineLabel_of_label? hlabel]
    exact ⟨hplain.unbroken, c, rest, hhead, hspace⟩

end Labels

namespace Node

variable {node tree : Node} {xs ys row : List Node} {level top : Nat} {rest rest' : List Nat}

/-! ## Lines -/

/-- The line of a node at a level, without its line break. Level 1 is not indented. -/
def lineAt (place : Nat × Node) : List Char :=
  List.replicate (2 * (place.1 - 1)) ' ' ++
    (outlineLabel place.2.kind place.2.kind.rule).toList

theorem lineAt_spec {place : Nat × Node} (hkind : place.2.kind.Proper) :
    '\n' ∉ lineAt place ∧ IndentedBy (2 * (place.1 - 1)) (lineAt place) := by
  obtain ⟨hunbroken, c, rest, hhead, hspace⟩ := unbroken_outlineLabel hkind
  refine ⟨?_, c, rest, by rw [lineAt, hhead], hspace⟩
  rw [lineAt, List.mem_append, not_or]
  exact ⟨by simp, hunbroken⟩

theorem outlineLine_eq (depth : Nat) (node : Node) :
    outlineLine depth node.kind node.kind.rule =
      String.ofList (lineAt (depth + 1, node)) ++ "\n" := by
  simp [outlineLine, lineAt, String.ofList_append, String.ofList_toList]

theorem outlineLinesAll_eq {depth : Nat}
    (h : ∀ node ∈ row, outlineLines depth node.styled =
      (node.levels (depth + 1)).map fun place => String.ofList (lineAt place) ++ "\n") :
    outlineLinesAll depth (styledAll row) =
      (levelsAll (depth + 1) row).map fun place => String.ofList (lineAt place) ++ "\n" := by
  induction row with
  | nil => rfl
  | cons node others ih =>
    obtain ⟨hnode, hothers⟩ := List.forall_mem_cons.mp h
    rw [styledAll, outlineLinesAll, hnode, ih hothers, levelsAll, List.map_append]

/-- **Each node has one line**, in document order. -/
theorem outlineLines_eq (node : Node) (depth : Nat) :
    outlineLines depth node.styled =
      (node.levels (depth + 1)).map fun place => String.ofList (lineAt place) ++ "\n" := by
  induction node using Node.induction generalizing depth with
  | node kind children ih =>
    rw [styled, outlineLines, outlineLinesAll_eq fun child hchild => ih child hchild (depth + 1),
      outlineLine_eq depth ⟨kind, children⟩, levels, List.map_cons]

theorem outline_eq (children : List Node) :
    outline (styled ⟨.document, children⟩) =
      String.join (((levelsAll 1 children).map lineAt).map fun line =>
        String.ofList line ++ "\n") := by
  rw [List.map_map]
  exact congrArg String.join (outlineLinesAll_eq fun node _ => outlineLines_eq node 0)

theorem countAll_styledAll
    (h : ∀ node ∈ row, node.styled.count = (node.levels level).length) :
    StyledNode.countAll (styledAll row) = (levelsAll level row).length := by
  induction row with
  | nil => rfl
  | cons node others ih =>
    obtain ⟨hnode, hothers⟩ := List.forall_mem_cons.mp h
    rw [styledAll, StyledNode.countAll, hnode, ih hothers, levelsAll, List.length_append]

theorem count_styled (node : Node) (level : Nat) :
    node.styled.count = (node.levels level).length := by
  induction node using Node.induction generalizing level with
  | node kind children ih =>
    have hrow := countAll_styledAll fun child hchild => ih child hchild (level + 1)
    rw [styled, StyledNode.count, hrow, levels, List.length_cons, Nat.add_comm]

/-! ## Shapes -/

mutual

/-- The shape of a tree. -/
def shape : Node → Shape
  | ⟨_, children⟩ => .node (shapeAll children)

/-- The shapes of a row of trees. -/
def shapeAll : List Node → List Shape
  | [] => []
  | node :: rest => node.shape :: shapeAll rest

end

/-- The levels of the nodes of a tree in document order. -/
def depths (level : Nat) (node : Node) : List Nat := (node.levels level).map Prod.fst

/-- The levels of the nodes of a row of trees in document order. -/
def depthsAll (level : Nat) (row : List Node) : List Nat := (levelsAll level row).map Prod.fst

theorem depths_mk (kind : NodeKind) (children : List Node) :
    depths level ⟨kind, children⟩ = level :: depthsAll (level + 1) children := by
  rw [depths, levels, List.map_cons]
  rfl

theorem depthsAll_cons :
    depthsAll level (node :: row) = node.depths level ++ depthsAll level row := by
  rw [depthsAll, levelsAll, List.map_append]
  rfl

/-- What follows some nodes does not lie below them: it begins with a level less than `level`, or
there is nothing more. -/
def LeadsOut (level : Nat) (rest : List Nat) : Prop := ∀ n ∈ rest.head?, n < level

theorem LeadsOut.depthsAll_append (h : LeadsOut level rest) (row : List Node) :
    LeadsOut (level + 1) (depthsAll level row ++ rest) := by
  cases row with
  | nil => exact fun n hn => Nat.lt_succ_of_lt (h n hn)
  | cons node others =>
    obtain ⟨kind, children⟩ := node
    rw [depthsAll_cons, depths_mk]
    intro n hn
    obtain rfl : level = n := by simpa using hn
    exact Nat.lt_succ_self level

/-- A row of nodes does not begin where something that leads out does. -/
theorem LeadsOut.ne_depthsAll_append (h : LeadsOut level rest) (node : Node) (row : List Node) :
    rest ≠ depthsAll level (node :: row) ++ rest' := by
  obtain ⟨kind, children⟩ := node
  rintro rfl
  rw [depthsAll_cons, depths_mk] at h
  exact Nat.lt_irrefl level (h level rfl)

/-- The levels in a tree determine its shape, whatever follows that does not lie below it. -/
def Determined (node : Node) : Prop :=
  ∀ (level : Nat) (other : Node) (rest rest' : List Nat),
    LeadsOut (level + 1) rest → LeadsOut (level + 1) rest' →
    node.depths level ++ rest = other.depths level ++ rest' →
    node.shape = other.shape ∧ rest = rest'

theorem shapeAll_eq_of_determined (hxs : ∀ node ∈ xs, node.Determined)
    (hrest : LeadsOut level rest) (hrest' : LeadsOut level rest')
    (h : depthsAll level xs ++ rest = depthsAll level ys ++ rest') :
    shapeAll xs = shapeAll ys ∧ rest = rest' := by
  -- on the first row; if one row ends before the other, its rest begins with a node of this level
  induction xs generalizing ys with
  | nil =>
    cases ys with
    | nil => exact ⟨rfl, h⟩
    | cons other others => exact absurd h (hrest.ne_depthsAll_append other others)
  | cons node row ih =>
    cases ys with
    | nil => exact absurd h.symm (hrest'.ne_depthsAll_append node row)
    | cons other others =>
      obtain ⟨hnode, hrow⟩ := List.forall_mem_cons.mp hxs
      rw [depthsAll_cons, depthsAll_cons, List.append_assoc, List.append_assoc] at h
      obtain ⟨hshape, hnext⟩ := hnode level other _ _ (hrest.depthsAll_append row)
        (hrest'.depthsAll_append others) h
      obtain ⟨hshapes, heq⟩ := ih hrow hnext
      exact ⟨by rw [shapeAll, shapeAll, hshape, hshapes], heq⟩

theorem determined (node : Node) : node.Determined := by
  induction node using Node.induction with
  | node kind children ih =>
    intro level other rest rest' hrest hrest' h
    obtain ⟨otherKind, otherChildren⟩ := other
    rw [depths_mk, depths_mk, List.cons_append, List.cons_append, List.cons.injEq] at h
    -- the children are a row one level down, which what follows the node leads out of
    obtain ⟨hshapes, heq⟩ := shapeAll_eq_of_determined ih hrest hrest' h.2
    exact ⟨by rw [shape, shape, hshapes], heq⟩

/-- **The levels of the nodes determine the shapes of a row of trees.** -/
theorem shapeAll_eq_of_depths (h : depthsAll level xs = depthsAll level ys) :
    shapeAll xs = shapeAll ys := by
  have hnone : LeadsOut level [] := by simp [LeadsOut]
  exact (shapeAll_eq_of_determined (fun node _ => determined node) hnone hnone
    (congrArg (· ++ []) h)).1

/-! ## Outlines -/

theorem le_of_mem_levels (h : (level, node) ∈ tree.levels top) : top ≤ level := by
  induction tree using Node.induction generalizing top with
  | node kind children ih =>
    rw [levels, List.mem_cons] at h
    rcases h with h | h
    · exact Nat.le_of_eq (Prod.mk.inj h).1.symm
    · obtain ⟨child, hchild, h⟩ := mem_levelsAll.mp h
      exact Nat.le_of_succ_le (ih child hchild h)

/-- The lines of an outline are those of the nodes below the root. -/
structure Outlined (tree : Node) (lines : List (List Char)) : Prop where
  text : outline tree.styled = String.join (lines.map fun line => String.ofList line ++ "\n")
  unbroken : ∀ line ∈ lines, '\n' ∉ line
  count : lines.length = tree.styled.count - 1
  indented : List.Forall₂ (fun place line => IndentedBy (2 * (place.1 - 1)) line)
    (levelsAll 1 tree.children) lines

theorem outlined_linesOf {tree : Node} (hroot : tree.kind = .document)
    (h : ∀ node ∈ preorderAll tree.children, node.kind.Proper) :
    tree.Outlined (linesOf (outline tree.styled)) := by
  obtain ⟨kind, children⟩ := tree
  obtain rfl : kind = .document := hroot
  have hplace : ∀ place ∈ levelsAll 1 children, place.2.kind.Proper := by
    intro place hplace
    obtain ⟨child, hchild, hplace⟩ := mem_levelsAll.mp hplace
    exact h place.2 (mem_preorderAll.mpr ⟨child, hchild, mem_preorder_of_mem_levels hplace⟩)
  have hunbroken : ∀ line ∈ (levelsAll 1 children).map lineAt, '\n' ∉ line :=
    List.forall_mem_map.mpr fun place hmem => (lineAt_spec (hplace place hmem)).1
  have hlines : linesOf (outline (styled ⟨.document, children⟩)) =
      (levelsAll 1 children).map lineAt := by
    rw [outline_eq, linesOf_join hunbroken]
  rw [hlines]
  refine ⟨outline_eq children, hunbroken, ?_, ?_⟩
  · rw [count_styled _ 0, levels, List.length_cons, List.length_map, Nat.add_sub_cancel]
  · rw [List.forall₂_map_right_iff, List.forall₂_same]
    exact fun place hmem => (lineAt_spec (hplace place hmem)).2

theorem levels_eq_map_indentation {places : List (Nat × Node)} {lines : List (List Char)}
    (h : List.Forall₂ (fun place line => IndentedBy (2 * (place.1 - 1)) line) places lines)
    (hplaces : ∀ place ∈ places, 1 ≤ place.1) :
    places.map Prod.fst = lines.map fun line => indentation line / 2 + 1 := by
  induction h with
  | nil => rfl
  | @cons place line _ _ hline _ ih =>
    obtain ⟨hplace, hothers⟩ := List.forall_mem_cons.mp hplaces
    have hlevel : place.1 = indentation line / 2 + 1 := by
      rw [hline.indentation_eq]
      omega
    rw [List.map_cons, List.map_cons, ih hothers, ← hlevel]

/-- The levels of the nodes are read off the lines. -/
theorem Outlined.depthsAll_eq {lines : List (List Char)} (h : tree.Outlined lines) :
    depthsAll 1 tree.children = lines.map fun line => indentation line / 2 + 1 := by
  refine levels_eq_map_indentation h.indented fun place hplace => ?_
  obtain ⟨child, -, hplace⟩ := mem_levelsAll.mp hplace
  exact le_of_mem_levels hplace

theorem outlined_ofEvents (events : List Event) :
    (ofEvents events).Outlined (linesOf (outline (ofEvents events).styled)) :=
  have hnormal := normal_proper_ofEvents events
  outlined_linesOf hnormal.root fun node hnode => (hnormal.nodes node hnode).kind

/-- **An outline shows the shape of its tree, and no text can forge it.** -/
theorem outline_lines :
    (∀ events : List Event,
      (ofEvents events).Outlined (linesOf (outline (ofEvents events).styled))) ∧
    ∀ events events' : List Event,
      outline (ofEvents events).styled = outline (ofEvents events').styled →
        (ofEvents events).shape = (ofEvents events').shape := by
  refine ⟨outlined_ofEvents, fun events events' h => ?_⟩
  have hdepths := (outlined_ofEvents events).depthsAll_eq
  rw [h, ← (outlined_ofEvents events').depthsAll_eq] at hdepths
  exact congrArg Shape.node (shapeAll_eq_of_depths hdepths)

/-- A break in a line is not told from a text that is one line break, and both trees are of one
shape. -/
theorem outline_lines_softBreak_and_text :
    outline (ofEvents [.softBreak]).styled = outline (ofEvents [.text "\n"]).styled ∧
      (ofEvents [.softBreak]).shape = (ofEvents [.text "\n"]).shape := by
  have h : outline (ofEvents [.softBreak]).styled = outline (ofEvents [.text "\n"]).styled := rfl
  exact ⟨h, outline_lines.2 _ _ h⟩

end Node

end MarkView
