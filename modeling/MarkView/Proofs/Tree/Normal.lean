import MarkView.Proofs.Tree.Depth
import MarkView.Proofs.Tree.Shape
import Mathlib.Data.List.Chain
/-!
# The normal form of a built tree

Whatever the stream, what a builder makes has a certain form: leaves have no children, no two
neighbours could be merged, inline code holds one text, elements nest only as deep as the limit,
and every kind is one that an event can make (`normal_ofEvents`).

The form is kept while the tree is half built. `Tidy` says it of the frames and of the root, each
with the depth it lies at, and each change to a builder keeps it. Which kinds there may be is left
open (`K`), so the same invariant serves streams of one sort or another.
-/

namespace MarkView

/-- A text that is not empty and holds no white space. -/
def IsWord (s : String) : Prop := s ≠ "" ∧ ∀ c ∈ s.toList, Text.isSpace c = false

/-- The language of a code block is one word. -/
theorem isWord_codeLanguage {info : Option String} {word : String}
    (h : codeLanguage info = some word) : IsWord word := by
  obtain ⟨s, -, hs⟩ := Option.bind_eq_some_iff.mp h
  obtain ⟨chars, hchars, rfl⟩ := Option.map_eq_some_iff.mp hs
  have hmem : chars ∈ Text.words s.toList := List.mem_of_mem_head? hchars
  refine ⟨?_, by simpa using Text.isSpace_of_mem_words hmem⟩
  intro hempty
  have hnil := congrArg String.toList hempty
  rw [String.toList_ofList] at hnil
  exact Text.ne_nil_of_mem_words hmem hnil

/-- And a word is the language of the block that has it as its info string. -/
theorem codeLanguage_of_isWord {word : String} (h : IsWord word) :
    codeLanguage (some word) = some word := by
  have hne : word.toList ≠ [] := fun hnil => h.1 (String.toList_eq_nil_iff.mp hnil)
  have hwords := Text.words_of_no_space h.2 hne
  simp [codeLanguage, hwords, String.ofList_toList]

namespace NodeKind

/-- A kind that an event can make. Only the root is a document, headings have six levels, inline
code has no language, and that of a code block is a word. -/
def Proper : NodeKind → Prop
  | document => False
  | heading level => 1 ≤ level ∧ level ≤ 6
  | code .inline language => language = none
  | code .block language => ∀ word ∈ language, IsWord word
  | _ => True

/-- The kinds that tables are made of. -/
def isTable : NodeKind → Bool
  | table | tableHead | tableRow | tableCell _ _ => true
  | _ => false

/-- Code in a line of text. -/
def isInlineCode : NodeKind → Bool
  | code .inline _ => true
  | _ => false

/-- Kinds that are shown as the text below them, whatever nodes that text is in. -/
def isOpaque : NodeKind → Bool
  | image _ _ | code _ _ => true
  | _ => false

theorem proper_of_isLeaf {kind : NodeKind} (h : kind.isLeaf = true) : kind.Proper := by
  cases kind <;> trivial

theorem isTable_of_isLeaf {kind : NodeKind} (h : kind.isLeaf = true) : kind.isTable = false := by
  cases kind <;> first | rfl | simp [isLeaf] at h

end NodeKind

/-- What a tag opens is a proper kind. -/
theorem Tag.proper_of_kind? {place : TablePlace} {tag : Tag} {kind : NodeKind}
    (h : tag.kind? place = some kind) : kind.Proper := by
  unfold Tag.kind? at h
  split at h <;> cases h <;> try trivial
  · next level => exact ⟨level.one_le, level.le_six⟩
  · next info => exact fun word hword => isWord_codeLanguage hword

/-- No tag opens inline code. -/
theorem Tag.isInlineCode_of_kind? {place : TablePlace} {tag : Tag} {kind : NodeKind}
    (h : tag.kind? place = some kind) : kind.isInlineCode = false := by
  unfold Tag.kind? at h
  split at h <;> cases h <;> rfl

namespace Node

mutual

/-- The nodes of a tree in document order, its root first. -/
def preorder : Node → List Node
  | ⟨kind, children⟩ => ⟨kind, children⟩ :: preorderAll children

/-- The nodes of a row of trees in document order. -/
def preorderAll : List Node → List Node
  | [] => []
  | node :: rest => node.preorder ++ preorderAll rest

end

mutual

/-- How many elements of a tree lie within each other. -/
def nesting : Node → Nat
  | ⟨kind, children⟩ => if kind.isLeaf then nestingAll children else nestingAll children + 1

/-- How many elements of a row of trees lie within each other. -/
def nestingAll : List Node → Nat
  | [] => 0
  | node :: rest => max node.nesting (nestingAll rest)

end

/-- No two neighbours of a row are both text or both raw HTML. -/
def Separate (row : List Node) : Prop := row.IsChain fun first second => first.merge? second = none

/-- What a node below the root of a built tree is. -/
structure Sound (K : NodeKind → Prop) (node : Node) : Prop where
  kind : K node.kind
  bare : node.Bare
  separate : Separate node.children
  inlineCode : node.kind.isInlineCode = true →
    ∃ content, node.children = [leaf (.text content)]

/-- **The normal form**: the root is a document, every other node is sound, no two neighbours
could be merged, and elements nest as deep as `maxDepth` at most. -/
structure Normal (K : NodeKind → Prop) (tree : Node) : Prop where
  root : tree.kind = .document
  separate : Separate tree.children
  nodes : ∀ node ∈ preorderAll tree.children, node.Sound K
  nesting : nestingAll tree.children ≤ maxDepth

theorem self_mem_preorder (node : Node) : node ∈ node.preorder := by
  cases node
  simp [preorder]

theorem mem_preorderAll {node : Node} {row : List Node} :
    node ∈ preorderAll row ↔ ∃ tree ∈ row, node ∈ tree.preorder := by
  induction row with
  | nil => simp [preorderAll]
  | cons tree rest ih => simp [preorderAll, ih]

theorem nestingAll_le_iff {row : List Node} {n : Nat} :
    nestingAll row ≤ n ↔ ∀ node ∈ row, node.nesting ≤ n := by
  induction row with
  | nil => simp [nestingAll]
  | cons node rest ih => rw [nestingAll, Nat.max_le, ih, List.forall_mem_cons]

/-! ## Rows of a half-built tree -/

/-- What a node is that lies within `depth` elements. -/
structure Fine (K : NodeKind → Prop) (limit depth : Nat) (node : Node) : Prop where
  nodes : ∀ n ∈ node.preorder, n.Sound K
  nesting : node.nesting + depth ≤ limit

/-- What a row is that lies within `depth` elements, its latest node first. -/
structure FineRow (K : NodeKind → Prop) (limit depth : Nat) (row : List Node) : Prop where
  separate : Separate row.reverse
  nodes : ∀ node ∈ row, node.Fine K limit depth

variable {K : NodeKind → Prop} {kind : NodeKind} {limit depth : Nat} {row : List Node}
  {node last both : Node}

theorem FineRow.nil : FineRow K limit depth [] := ⟨.nil, by simp⟩

theorem separate_reverse_cons : Separate (node :: row).reverse ↔
    (∀ last ∈ row.head?, last.merge? node = none) ∧ Separate row.reverse := by
  simp only [Separate, List.isChain_reverse, List.isChain_cons]

theorem FineRow.cons (h : FineRow K limit depth row) (hnode : node.Fine K limit depth)
    (hlast : ∀ last ∈ row.head?, last.merge? node = none) :
    FineRow K limit depth (node :: row) :=
  ⟨separate_reverse_cons.mpr ⟨hlast, h.separate⟩, List.forall_mem_cons.mpr ⟨hnode, h.nodes⟩⟩

theorem FineRow.tail (h : FineRow K limit depth (last :: row)) : FineRow K limit depth row :=
  ⟨(separate_reverse_cons.mp h.separate).2, (List.forall_mem_cons.mp h.nodes).2⟩

theorem fine_leaf (hkind : K kind) (hleaf : kind.isLeaf = true) (hdepth : depth ≤ limit) :
    (leaf kind).Fine K limit depth := by
  refine ⟨?_, ?_⟩
  · have hsound : (leaf kind).Sound K :=
      ⟨hkind, bare_leaf kind, .nil, by cases kind <;> simp [leaf, NodeKind.isLeaf,
        NodeKind.isInlineCode] at hleaf ⊢⟩
    simpa [leaf, preorder, preorderAll] using hsound
  · simpa [leaf, nesting, nestingAll, hleaf] using hdepth

/-- An element around a row lies one level higher. -/
theorem FineRow.element (h : FineRow K limit (depth + 1) row) (hkind : K kind)
    (hleaf : kind.isLeaf = false)
    (hcode : kind.isInlineCode = true → ∃ content, row = [leaf (.text content)])
    (hdepth : depth + 1 ≤ limit) : Fine K limit depth ⟨kind, row.reverse⟩ := by
  have hnodes : ∀ n ∈ preorderAll row.reverse, n.Sound K := by
    intro n hn
    obtain ⟨tree, htree, hn⟩ := mem_preorderAll.mp hn
    exact (h.nodes tree (List.mem_reverse.mp htree)).nodes n hn
  have hnesting : nestingAll row.reverse ≤ limit - (depth + 1) := by
    rw [nestingAll_le_iff]
    intro tree htree
    have hle := (h.nodes tree (List.mem_reverse.mp htree)).nesting
    omega
  have hself : Sound K ⟨kind, row.reverse⟩ := by
    refine ⟨hkind, bare_of_not_isLeaf hleaf, h.separate, fun hinline => ?_⟩
    obtain ⟨content, hrow⟩ := hcode hinline
    exact ⟨content, by rw [hrow]; rfl⟩
  refine ⟨?_, ?_⟩
  · rw [preorder, List.forall_mem_cons]
    exact ⟨hself, hnodes⟩
  · rw [nesting, if_neg (by simp [hleaf])]
    omega

/-- Two leaves that merge are a leaf of their sort. -/
theorem isLeaf_of_merge? (h : last.merge? node = some both) :
    last.kind.isLeaf = true ∧ both.kind.isLeaf = true ∧ both.children = last.children := by
  rcases merge?_eq_some_iff.mp h with ⟨s, t, hk, -, rfl⟩ | ⟨s, t, hk, -, rfl⟩ <;>
    exact ⟨by rw [hk]; rfl, rfl, rfl⟩

/-- **A leaf that is put into a row keeps it fine.** -/
theorem FineRow.putNode (hK : ∀ kind : NodeKind, kind.isLeaf = true → K kind)
    (h : FineRow K limit depth row) (hleaf : kind.isLeaf = true) (hdepth : depth ≤ limit) :
    FineRow K limit depth (Node.putNode row (leaf kind)) := by
  have hnode := fine_leaf (hK kind hleaf) hleaf hdepth
  cases row with
  | nil => exact h.cons hnode (by simp)
  | cons last earlier =>
    cases hm : last.merge? (leaf kind) with
    | none =>
      rw [putNode_of_merge?_none hm]
      exact h.cons hnode (by simpa using hm)
    | some both =>
      -- what could not be merged with the last leaf cannot be with the longer one
      obtain ⟨hlast, hboth, hchildren⟩ := isLeaf_of_merge? hm
      have hbare : last.children = [] :=
        ((h.nodes last (by simp)).nodes last (self_mem_preorder last)).bare hlast
      have heq : both = leaf both.kind := by
        obtain ⟨k, below⟩ := both
        simp only at hchildren
        rw [hchildren, hbare]
        rfl
      rw [putNode_of_merge? hm]
      refine h.tail.cons ?_ fun before hbefore => ?_
      · rw [heq]
        exact fine_leaf (hK _ hboth) hboth hdepth
      · exact merge?_eq_none_of_merge?
          ((separate_reverse_cons.mp h.separate).1 before hbefore) hm

end Node

/-! ## Half-built trees -/

namespace Builder

open Node (FineRow)

variable {K : NodeKind → Prop} {kind : NodeKind} {limit : Nat} {b : Builder}
  {f : List Node → List Node} {content : String}

/-- Frames that can be closed, the innermost first. Each lies within those after it. -/
def FineFrames (K : NodeKind → Prop) (limit : Nat) : List Frame → Prop
  | [] => True
  | frame :: outer =>
    (K frame.kind ∧ frame.kind.isLeaf = false ∧ frame.kind.isInlineCode = false) ∧
      FineRow K limit (outer.length + 1) frame.children ∧ FineFrames K limit outer

/-- The invariant of a builder between two events. Inline code is never open then. -/
structure Tidy (K : NodeKind → Prop) (limit : Nat) (b : Builder) : Prop where
  within : b.Within limit
  frames : FineFrames K limit b.opened
  root : FineRow K limit 0 b.root

theorem Tidy.init (K : NodeKind → Prop) (limit : Nat) : Tidy K limit { limit := some limit } :=
  ⟨.init limit, trivial, .nil⟩

theorem Tidy.withTable (h : b.Tidy K limit) (place : TablePlace) :
    Tidy K limit { b with table := place } := ⟨h.within.withTable place, h.frames, h.root⟩

theorem Tidy.updateChildren (h : b.Tidy K limit)
    (hf : ∀ row, FineRow K limit b.opened.length row → FineRow K limit b.opened.length (f row)) :
    (b.updateChildren f).Tidy K limit := by
  refine ⟨h.within.updateChildren, ?_, ?_⟩
  all_goals obtain ⟨opened, root, table, flattened, bound⟩ := b
  · cases opened with
    | nil => trivial
    | cons frame outer => exact ⟨h.frames.1, hf _ h.frames.2.1, h.frames.2.2⟩
  · cases opened with
    | nil => exact hf root h.root
    | cons frame outer => exact h.root

theorem Tidy.put (hK : ∀ kind : NodeKind, kind.isLeaf = true → K kind) (h : b.Tidy K limit)
    (hleaf : kind.isLeaf = true) : (b.put kind).Tidy K limit :=
  h.updateChildren fun _ hrow => hrow.putNode hK hleaf h.within.opened_le

theorem Tidy.append (h : b.Tidy K limit) {node : Node}
    (hnode : node.Fine K limit b.opened.length) (helement : node.kind.isLeaf = false) :
    (b.append node).Tidy K limit :=
  h.updateChildren fun _ hrow => hrow.cons hnode fun _ _ => Node.merge?_of_not_isLeaf helement

theorem Tidy.openElement (h : b.Tidy K limit) (hkind : K kind) (hleaf : kind.isLeaf = false)
    (hcode : kind.isInlineCode = false) : (b.openElement kind).Tidy K limit := by
  refine ⟨h.within.openElement, ?_, ?_⟩ <;> unfold Builder.openElement <;> split
  · exact ⟨⟨hkind, hleaf, hcode⟩, .nil, h.frames⟩
  · exact h.frames
  · exact h.root
  · exact h.root

theorem Tidy.closeElement (h : b.Tidy K limit) : b.closeElement.Tidy K limit := by
  by_cases hflat : b.flattened = 0
  · rcases opened_eq_nil_or_pushFrame b with hnil | ⟨outer, frame, rfl⟩
    · rw [closeElement_of_depth_zero hnil hflat]
      exact h
    · rw [closeElement_pushFrame (b := outer) hflat]
      obtain ⟨⟨hkind, hleaf, hcode⟩, hrow, houter⟩ := h.frames
      have hlt : outer.opened.length + 1 ≤ limit := h.within.opened_le
      have hwithin : outer.Within limit :=
        ⟨h.within.limit_eq, by omega, fun hpos => absurd hflat (Nat.ne_of_gt hpos)⟩
      have hfine : Node.Fine K limit outer.opened.length ⟨frame.kind, frame.children.reverse⟩ :=
        hrow.element hkind hleaf (by simp [hcode]) hlt
      exact Tidy.append ⟨hwithin, houter, h.root⟩ hfine hleaf
  · have hclose : b.closeElement = { b with flattened := b.flattened - 1 } :=
      if_pos (Nat.pos_of_ne_zero hflat)
    refine ⟨h.within.closeElement, ?_, ?_⟩ <;> rw [hclose]
    · exact h.frames
    · exact h.root

/-- Where there is room, nothing is flattened. -/
theorem Within.flattened_eq_zero (h : b.Within limit) (hroom : b.hasRoom = true) :
    b.flattened = 0 := by
  have hlt := h.hasRoom_iff.mp hroom
  have hfull := h.full
  simp only [depth] at hlt
  omega

/-- **Inline code is one node with its text**, where there is room for it. -/
theorem push_code_of_hasRoom (h : b.Within limit) (hroom : b.hasRoom = true) :
    b.push (.code content) =
      b.append ⟨.code .inline none, [.leaf (.text content)]⟩ := by
  rw [push, openElement_of_hasRoom hroom, addText_eq, put, updateChildren_pushFrame,
    closeElement_pushFrame (h.flattened_eq_zero hroom)]
  rfl

/-- And it is just its text where there is none. -/
theorem push_code_of_not_hasRoom (hroom : ¬ b.hasRoom = true) :
    b.push (.code content) = b.put (.text content) := by
  rw [push, openElement_of_not_hasRoom hroom, addText_eq, put, updateChildren_addFlattened,
    closeElement_addFlattened]
  rfl

theorem Tidy.code (hK : ∀ kind : NodeKind, kind.isLeaf = true → K kind)
    (hcode : K (.code .inline none)) (h : b.Tidy K limit) :
    (b.push (.code content)).Tidy K limit := by
  by_cases hroom : b.hasRoom = true
  · have hlt : b.opened.length + 1 ≤ limit := by
      have hdepth := h.within.hasRoom_iff.mp hroom
      simp only [depth] at hdepth
      omega
    have htext : FineRow K limit (b.opened.length + 1) [.leaf (.text content)] :=
      FineRow.nil.cons (Node.fine_leaf (hK _ rfl) rfl hlt) (by simp)
    rw [push_code_of_hasRoom h.within hroom]
    exact h.append (htext.element hcode rfl (fun _ => ⟨content, rfl⟩) hlt) rfl
  · rw [push_code_of_not_hasRoom hroom]
    exact h.put hK rfl

/-- **Every event keeps a builder tidy**, if the kind that it opens is an allowed one. -/
theorem Tidy.push (hK : ∀ kind : NodeKind, kind.isLeaf = true → K kind)
    (hcode : K (.code .inline none)) (h : b.Tidy K limit) {event : Event}
    (hstart : ∀ tag, event = .start tag → ∀ place kind, tag.kind? place = some kind → K kind) :
    (b.push event).Tidy K limit := by
  cases event with
  | start tag =>
    simp only [Builder.push, start]
    cases hk : tag.kind? b.table with
    | none => exact h
    | some kind =>
      exact (h.withTable _).openElement (hstart tag rfl b.table kind hk) (Tag.isLeaf_of_kind? hk)
        (Tag.isInlineCode_of_kind? hk)
  | stop name =>
    simp only [Builder.push, stop]
    split
    · exact h
    · exact (h.withTable _).closeElement
  | code content => exact h.code hK hcode
  | _ =>
    rw [push_of_leaf? rfl]
    exact h.put hK rfl

theorem Tidy.foldl (hK : ∀ kind : NodeKind, kind.isLeaf = true → K kind)
    (hcode : K (.code .inline none)) (h : b.Tidy K limit) {events : List Event}
    (hstart : ∀ tag, .start tag ∈ events → ∀ place kind, tag.kind? place = some kind → K kind) :
    (events.foldl Builder.push b).Tidy K limit := by
  induction events generalizing b with
  | nil => exact h
  | cons event rest ih =>
    refine ih (h.push hK hcode fun tag htag => hstart tag (by simp [htag])) ?_
    exact fun tag htag => hstart tag (List.mem_cons_of_mem _ htag)

theorem Tidy.closeElements (h : b.Tidy K limit) (n : Nat) : (closeElements n b).Tidy K limit := by
  induction n generalizing b with
  | zero => exact h
  | succ n ih => exact ih h.closeElement

end Builder

/-- **Every built tree is in normal form**, with the kinds that its stream allows. -/
theorem Node.normal_ofEvents {K : NodeKind → Prop} {events : List Event}
    (hK : ∀ kind : NodeKind, kind.isLeaf = true → K kind) (hcode : K (.code .inline none))
    (hstart : ∀ tag, .start tag ∈ events → ∀ place kind, tag.kind? place = some kind → K kind) :
    (ofEvents events).Normal K := by
  have hrow : FineRow K maxDepth 0 (ofEvents events).children.reverse := by
    have htidy := (Builder.Tidy.init K maxDepth).foldl hK hcode hstart
    simpa [ofEvents, ofEventsWithin, Builder.finish] using (htidy.closeElements _).root
  refine ⟨rfl, by simpa using hrow.separate, ?_, ?_⟩
  · intro node hnode
    obtain ⟨tree, htree, hnode⟩ := mem_preorderAll.mp hnode
    exact (hrow.nodes tree (List.mem_reverse.mpr htree)).nodes node hnode
  · rw [nestingAll_le_iff]
    exact fun tree htree => (hrow.nodes tree (List.mem_reverse.mpr htree)).nesting

/-- The kinds of a built tree are proper, its root apart. -/
theorem Node.normal_proper_ofEvents (events : List Event) :
    (ofEvents events).Normal NodeKind.Proper :=
  normal_ofEvents (fun _ => NodeKind.proper_of_isLeaf) rfl fun _ _ _ _ => Tag.proper_of_kind?

/-- No leaf of a built tree has children. -/
theorem Node.bare_ofEvents (events : List Event) :
    ∀ node ∈ (ofEvents events).preorder, node.Bare := by
  have hnormal : (ofEvents events).Normal fun _ => True :=
    normal_ofEvents (fun _ _ => trivial) trivial fun _ _ _ _ _ => trivial
  have hroot : (ofEvents events).Bare := bare_of_not_isLeaf rfl
  exact List.forall_mem_cons.mpr ⟨hroot, fun node hnode => (hnormal.nodes node hnode).bare⟩

end MarkView
