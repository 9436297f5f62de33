import MarkView.Outline
import MarkView.Proofs.Tree.Normal
/-!
# The lines of an outline

An outline is text, and its lines are got back from it (`unquotedLines`), because no label breaks
a line: a quoted text writes its line breaks in another way, and there are none in tags and
classes. A line that begins with a quote is a text. All others, with their indentation taken away,
are the labels of the nodes in document order (`unquotedLines_outline`), those below images and
code left out, as they are no elements of the page.
-/

namespace MarkView

/-- The lines of a text, each of which ends with a line break. -/
def linesOf (text : String) : List (List Char) := (text.toList.splitOn '\n').dropLast

/-- The lines of an outline that are not quoted, without their indentation. -/
def unquotedLines (text : String) : List String :=
  (((linesOf text).map (·.dropWhile (· = ' '))).filter (·.head? ≠ some '"')).map String.ofList

mutual

/-- A styled tree without the children of its images and its code. -/
def StyledNode.pruned : StyledNode → StyledNode
  | ⟨kind, rule, children⟩ => ⟨kind, rule, if kind.isOpaque then [] else prunedAll children⟩

/-- A row of styled trees, each without the children of its images and its code. -/
def StyledNode.prunedAll : List StyledNode → List StyledNode
  | [] => []
  | node :: rest => node.pruned :: prunedAll rest

end

/-- The label of a kind, if it has one that is not quoted. -/
def NodeKind.label? : NodeKind → Option String
  | .document | .text _ | .html _ | .softBreak => none
  | kind => some (outlineLabel kind kind.rule)

namespace Node

mutual

/-- The labels of a tree in document order, those below images and code left out. -/
def labels : Node → List String
  | ⟨kind, children⟩ => kind.label?.toList ++ if kind.isOpaque then [] else labelsAll children

/-- The labels of a row of trees in document order. -/
def labelsAll : List Node → List String
  | [] => []
  | node :: rest => node.labels ++ labelsAll rest

end

@[simp] theorem labelsAll_append (xs ys : List Node) :
    labelsAll (xs ++ ys) = labelsAll xs ++ labelsAll ys := by
  induction xs with
  | nil => rfl
  | cons node rest ih => rw [List.cons_append, labelsAll, labelsAll, ih, List.append_assoc]

end Node

/-! ## Labels -/

/-- A digit is no line break. -/
theorem newline_notMem_hex (n : Nat) : '\n' ∉ Text.hex n := by
  have hdigit : ∀ m < 16, Nat.digitChar m ≠ '\n' := by decide
  induction n using Nat.strongRecOn with
  | ind n ih =>
    rw [Text.hex, Nat.toDigits_eq_if (by decide)]
    split
    · next hlt => simp [(hdigit n hlt).symm]
    · next hle =>
      have hlast := (hdigit (n % 16) (Nat.mod_lt n (by decide))).symm
      have hbefore : '\n' ∉ Text.hex (n / 16) := ih (n / 16) (by omega)
      rw [List.mem_append, not_or]
      exact ⟨hbefore, by simp [hlast]⟩

theorem newline_notMem_quoteChar (c : Char) : '\n' ∉ Text.quoteChar c := by
  unfold Text.quoteChar
  split_ifs with _ _ _ _ _ hbreak
  all_goals try decide
  · simpa using newline_notMem_hex c.toNat
  · simpa using Ne.symm hbreak

/-- **A quoted text is on one line.** -/
theorem newline_notMem_quote (s : String) : '\n' ∉ (Text.quote s).toList := by
  simp [Text.quote, newline_notMem_quoteChar]

/-- A label that is not quoted: it is on one line, and it is told from a quoted one, and from the
indentation before it, by its first character. -/
structure Plain (label : String) : Prop where
  unbroken : '\n' ∉ label.toList
  head : ∃ c rest, label.toList = c :: rest ∧ c ≠ ' ' ∧ c ≠ '"'

theorem Plain.append {label more : String} (h : Plain label) (hmore : '\n' ∉ more.toList) :
    Plain (label ++ more) := by
  obtain ⟨c, rest, hlabel, hhead⟩ := h.head
  refine ⟨?_, c, rest ++ more.toList, ?_, hhead⟩
  · rw [String.toList_append, List.mem_append, not_or]
    exact ⟨h.unbroken, hmore⟩
  · rw [String.toList_append, hlabel, List.cons_append]

theorem newline_notMem_of_isWord {word : String} (h : IsWord word) : '\n' ∉ word.toList :=
  fun hmem => absurd (h.2 _ hmem) (by decide)

/-- A selector begins with a tag, and then come words. -/
theorem plain_selector (element : Element) (cssClass : Option String) :
    Plain (selector element cssClass) := by
  refine Plain.append ?_ ?_
  · refine ⟨?_, ?_⟩ <;> cases element <;> simp [Element.tag?]
  · intro hmem
    rw [String.toList_join, List.flatMap_map, List.mem_flatMap] at hmem
    obtain ⟨word, hword, hmem⟩ := hmem
    have hnone : '\n' ∉ word := fun hmem =>
      absurd (Text.isSpace_of_mem_words hword '\n' hmem) (by decide)
    simp [hnone] at hmem

theorem outlineLabel_of_label? {kind : NodeKind} {label : String} (h : kind.label? = some label) :
    outlineLabel kind kind.rule = label := by
  cases kind <;> first | exact Option.some.inj h | cases h

/-- **Every label that is not quoted is plain**: the language of code is a word as well. -/
theorem plain_of_label? {kind : NodeKind} (hkind : kind.Proper) {label : String}
    (h : kind.label? = some label) : Plain label := by
  rw [← outlineLabel_of_label? h]
  unfold outlineLabel
  split
  · cases h
  · cases h
  · cases h
  · -- a container comes before the tag of the node, and a language after its classes
    have hselector := plain_selector kind.element kind.rule.cssClass
    refine Plain.append ?_ ?_
    · split
      · next c _ =>
        exact ((plain_selector c.element (some c.cssClass)).append (by decide)).append
          hselector.unbroken
      · rw [String.empty_append]
        exact hselector
    · split
      · next display language _ _ _ =>
        have hword : IsWord language := by
          cases display with
          | inline => cases hkind
          | block => exact hkind language rfl
        simp [newline_notMem_of_isWord hword]
      · decide

/-! ## Lines -/

section Lines

variable {line label : String}

@[simp] theorem linesOf_empty : linesOf "" = [] := by
  simp [linesOf]

/-- **A line is read up to its break**, whatever follows. -/
theorem linesOf_cons (h : '\n' ∉ line.toList) (rest : String) :
    linesOf (line ++ "\n" ++ rest) = line.toList :: linesOf rest := by
  have hchars : (line ++ "\n" ++ rest).toList = line.toList ++ '\n' :: rest.toList := by
    simp
  rw [linesOf, hchars, List.splitOn_append_cons_self_of_not_mem h,
    List.dropLast_cons_of_ne_nil (List.splitOn_ne_nil _ _)]
  rfl

@[simp] theorem unquotedLines_empty : unquotedLines "" = [] := by
  simp [unquotedLines]

/-- An indented line counts as the label that is on it, unless that is quoted. -/
theorem unquotedLines_cons (indent : Nat) {c : Char} {chars : List Char}
    (hlabel : label.toList = c :: chars) (hspace : c ≠ ' ') (hbreak : '\n' ∉ label.toList)
    (rest : String) :
    unquotedLines (String.ofList (List.replicate indent ' ') ++ label ++ "\n" ++ rest) =
      (if c = '"' then [] else [label]) ++ unquotedLines rest := by
  have hline : '\n' ∉ (String.ofList (List.replicate indent ' ') ++ label).toList := by
    simp [hbreak]
  have hdrop : (List.replicate indent ' ' ++ label.toList).dropWhile (· = ' ') = label.toList := by
    rw [List.dropWhile_append_of_pos (by simp), hlabel, List.dropWhile_cons_of_neg (by simpa)]
  have hrestored : String.ofList (c :: chars) = label := by
    rw [← hlabel, String.ofList_toList]
  rw [unquotedLines, linesOf_cons hline, String.toList_append, String.toList_ofList,
    List.map_cons, hdrop, hlabel, List.filter_cons]
  by_cases hquote : c = '"' <;> simp [hquote, hrestored, unquotedLines]

/-- **The line of a node counts as its label**, if it has one. -/
theorem unquotedLines_outlineLine {kind : NodeKind} (hkind : kind.Proper) (depth : Nat)
    (rest : String) :
    unquotedLines (outlineLine depth kind kind.rule ++ rest) =
      kind.label?.toList ++ unquotedLines rest := by
  have hquoted : ∀ s, unquotedLines (String.ofList (List.replicate (2 * depth) ' ') ++
      Text.quote s ++ "\n" ++ rest) = unquotedLines rest := fun s =>
    unquotedLines_cons (2 * depth) String.toList_ofList (by decide) (newline_notMem_quote s) rest
  cases hlabel : kind.label? with
  | none =>
    cases kind with
    | document => exact hkind.elim
    | text content | html content => exact hquoted content
    | softBreak => exact hquoted "\n"
    | _ => cases hlabel
  | some label =>
    have hplain := plain_of_label? hkind hlabel
    obtain ⟨c, chars, hchars, hspace, hquote⟩ := hplain.head
    rw [outlineLine, outlineLabel_of_label? hlabel,
      unquotedLines_cons (2 * depth) hchars hspace hplain.unbroken, if_neg hquote]
    rfl

end Lines

/-! ## Trees -/

namespace Node

theorem unquotedLines_outlineLinesAll {row : List Node} {depth : Nat}
    (h : ∀ node ∈ row, ∀ rest,
      unquotedLines (String.join (outlineLines depth node.styled.pruned) ++ rest) =
        node.labels ++ unquotedLines rest) (rest : String) :
    unquotedLines (String.join (outlineLinesAll depth (StyledNode.prunedAll (styledAll row))) ++
      rest) = labelsAll row ++ unquotedLines rest := by
  induction row generalizing rest with
  | nil => rfl
  | cons node others ih =>
    rw [List.forall_mem_cons] at h
    rw [styledAll, StyledNode.prunedAll, outlineLinesAll, String.join_append, String.append_assoc,
      h.1, ih h.2, labelsAll, List.append_assoc]

/-- **The lines of a tree are its labels**, whatever comes after them. -/
theorem unquotedLines_outlineLines {node : Node} (h : ∀ n ∈ node.preorder, n.kind.Proper)
    (depth : Nat) (rest : String) :
    unquotedLines (String.join (outlineLines depth node.styled.pruned) ++ rest) =
      node.labels ++ unquotedLines rest := by
  induction node using Node.induction generalizing depth rest with
  | node kind children ih =>
    rw [preorder, List.forall_mem_cons] at h
    obtain ⟨hkind, hbelow⟩ := h
    have hchild : ∀ child ∈ children, ∀ rest,
        unquotedLines (String.join (outlineLines (depth + 1) child.styled.pruned) ++ rest) =
          child.labels ++ unquotedLines rest := fun child hchild =>
      ih child hchild (fun n hn => hbelow n (mem_preorderAll.mpr ⟨child, hchild, hn⟩)) (depth + 1)
    rw [styled, StyledNode.pruned, outlineLines, String.join_cons, String.append_assoc,
      unquotedLines_outlineLine hkind, labels, List.append_assoc]
    split
    · rfl
    · rw [unquotedLines_outlineLinesAll hchild]

/-- **The lines of an outline that are not quoted are the labels of its tree.** -/
theorem unquotedLines_outline {tree : Node} (hroot : tree.kind = .document)
    (h : ∀ node ∈ preorderAll tree.children, node.kind.Proper) :
    unquotedLines (outline tree.styled.pruned) = tree.labels := by
  obtain ⟨kind, children⟩ := tree
  obtain rfl : kind = .document := hroot
  have hnode : ∀ node ∈ children, ∀ rest,
      unquotedLines (String.join (outlineLines 0 node.styled.pruned) ++ rest) =
        node.labels ++ unquotedLines rest := fun node hnode =>
    unquotedLines_outlineLines (fun n hn => h n (mem_preorderAll.mpr ⟨node, hnode, hn⟩)) 0
  have hrow := unquotedLines_outlineLinesAll hnode ""
  rw [String.append_empty, unquotedLines_empty, List.append_nil] at hrow
  exact hrow

theorem unquotedLines_outline_ofEvents (events : List Event) :
    unquotedLines (outline (ofEvents events).styled.pruned) = (ofEvents events).labels :=
  have hnormal := normal_proper_ofEvents events
  unquotedLines_outline hnormal.root fun node hnode => (hnormal.nodes node hnode).kind

end Node

end MarkView
