import MarkView.Proofs.Html.Document
import MarkView.Proofs.Tree.Normal
/-!
# The text of a page

A page shows the text of its tree in document order, but for the images, whose text is an
attribute (`Node.visible`). From the HTML of the tree the same text is got by taking out the tags
and then replacing the entities (`textOf`). Line breaks apart, the two agree
(`unbroken_textOf_serialize`): no text is lost and none changes its place. Tables are the one
exception, since a head that comes late in its table is moved to the front.

What remains of pieces of markup is their text (`textOf_writeAll`), because all that is written
in between is either within a tag or an entity. The text of the pieces of a tree is then compared
with the tree itself (`shown_markup`).
-/

namespace MarkView

/-- The text that a leaf shows. -/
def NodeKind.shown : NodeKind → String
  | .text content => content
  | .html content => content
  | .footnoteReference label => label
  | _ => ""

namespace Node

mutual

/-- **The text that a tree shows.** Code shows all the literal text below it, an image none. -/
def visible : Node → String
  | ⟨.image _ _, _⟩ => ""
  | ⟨.code _ _, children⟩ => String.join (leafTexts children)
  | ⟨kind, children⟩ => kind.shown ++ visibleAll children

/-- The text that a row of trees shows. -/
def visibleAll : List Node → String
  | [] => ""
  | node :: rest => node.visible ++ visibleAll rest

end

/-- No head comes after anything else in a row. -/
def HeadsLead (row : List Node) : Prop :=
  row.Pairwise fun first second => second.kind = .tableHead → first.kind = .tableHead

/-- In every table of a tree the heads come first. -/
def HeadsFirst (tree : Node) : Prop :=
  ∀ node ∈ tree.preorder, node.kind = .table → HeadsLead node.children

instance (row : List Node) : Decidable (HeadsLead row) :=
  inferInstanceAs (Decidable (row.Pairwise _))

instance (tree : Node) : Decidable tree.HeadsFirst :=
  inferInstanceAs (Decidable (∀ node ∈ tree.preorder, node.kind = .table → _))

end Node

namespace Html

/-! ## Taking the text out of HTML -/

mutual

/-- The characters outside the tags. -/
def stripTags : List Char → List Char
  | [] => []
  | c :: rest => if c = '<' then skipTag rest else c :: stripTags rest

/-- The characters outside the tags, from the middle of a tag on. -/
def skipTag : List Char → List Char
  | [] => []
  | c :: rest => if c = '>' then stripTags rest else skipTag rest

end

/-- Characters with the entities among them replaced, from left to right. -/
def decode : List Char → List Char
  | '&' :: 'a' :: 'm' :: 'p' :: ';' :: rest => '&' :: decode rest
  | '&' :: 'l' :: 't' :: ';' :: rest => '<' :: decode rest
  | '&' :: 'g' :: 't' :: ';' :: rest => '>' :: decode rest
  | '&' :: 'q' :: 'u' :: 'o' :: 't' :: ';' :: rest => '"' :: decode rest
  | '&' :: '#' :: '3' :: '9' :: ';' :: rest => '\'' :: decode rest
  | c :: rest => c :: decode rest
  | [] => []

/-- **The text of some HTML**: its tags are taken out, then its entities replaced. -/
def textOf (html : String) : String := String.ofList (decode (stripTags html.toList))

/-- A text without its line breaks. -/
def unbroken (s : String) : String := String.ofList (s.toList.filter (· ≠ '\n'))

/-! ## The text of markup -/

theorem decode_cons_of_ne {c : Char} {rest : List Char} (h : c ≠ '&') :
    decode (c :: rest) = c :: decode rest := by
  simp [decode, h]

/-- An escaped character is decoded, whatever follows it. -/
theorem decode_escapeChar_append (c : Char) (rest : List Char) :
    decode (escapeChar c ++ rest) = c :: decode rest := by
  refine escapeChar_cases rfl rfl rfl rfl rfl (fun c hc => ?_) c
  have hamp : c ≠ '&' := by
    rintro rfl
    exact absurd hc (by decide)
  exact decode_cons_of_ne hamp

/-- **What is escaped is decoded.** -/
theorem decode_escapeChars (cs : List Char) : decode (escapeChars cs) = cs := by
  induction cs with
  | nil => simp [escapeChars, decode]
  | cons c rest ih =>
    rw [escapeChars, List.flatMap_cons, decode_escapeChar_append]
    exact congrArg (c :: ·) ih

/-- The text of a piece. -/
def Markup.content : Markup → List Char
  | .text content => content.toList
  | _ => []

section Tags

variable {xs rest : List Char}

/-- Text has no angle brackets, so it is kept. -/
theorem stripTags_append (h : xs.filter isAngle = []) :
    stripTags (xs ++ rest) = xs ++ stripTags rest := by
  rw [List.filter_eq_nil_iff] at h
  induction xs with
  | nil => rfl
  | cons c cs ih =>
    obtain ⟨hc, hcs⟩ := List.forall_mem_cons.mp h
    have hlt : c ≠ '<' := fun hlt => hc (by rw [hlt]; rfl)
    rw [List.cons_append, stripTags, if_neg hlt, ih hcs, List.cons_append]

/-- What is within a tag has none either, so it is skipped to the end of the tag. -/
theorem skipTag_append (h : xs.filter isAngle = []) :
    skipTag (xs ++ '>' :: rest) = stripTags rest := by
  rw [List.filter_eq_nil_iff] at h
  induction xs with
  | nil => rw [List.nil_append, skipTag, if_pos rfl]
  | cons c cs ih =>
    obtain ⟨hc, hcs⟩ := List.forall_mem_cons.mp h
    have hgt : c ≠ '>' := fun hgt => hc (by rw [hgt]; rfl)
    rw [List.cons_append, skipTag, if_neg hgt, ih hcs]

/-- **Of a piece its text is left**, as it was escaped. -/
theorem stripTags_write {piece : Markup} (h : piece.Readable) :
    stripTags (piece.write.toList ++ rest) = escapeChars piece.content ++ stripTags rest := by
  cases piece with
  | text content =>
    rw [Markup.write, stripTags_append (filter_isAngle_escape content), toList_escape]
    rfl
  | endTag name =>
    have hinside : ('/' :: name.toList).filter isAngle = [] := filter_isAngle_name h
    have hskip : skipTag ('/' :: name.toList ++ '>' :: rest) = stripTags rest :=
      skipTag_append hinside
    simpa [Markup.write, stripTags, Markup.content, escapeChars] using hskip
  | startTag name attributes =>
    let inside := name ++ String.join (attributes.map Attribute.write)
    have hinside : inside.toList.filter isAngle = [] := by
      rw [String.toList_append, List.filter_append, filter_isAngle_name h.1,
        filter_isAngle_attributes h.2]
      rfl
    have hskip : skipTag (inside.toList ++ '>' :: rest) = stripTags rest := skipTag_append hinside
    simpa [inside, Markup.write, stripTags, Markup.content, escapeChars] using hskip

theorem stripTags_writeAll {pieces : List Markup} (h : ∀ p ∈ pieces, p.Readable) :
    stripTags (writeAll pieces).toList = escapeChars (pieces.flatMap Markup.content) := by
  rw [writeAll, String.toList_join]
  induction pieces with
  | nil => rfl
  | cons p rest ih =>
    rw [List.forall_mem_cons] at h
    rw [List.map_cons, List.flatMap_cons, stripTags_write h.1, ih h.2, List.flatMap_cons,
      escapeChars, escapeChars, escapeChars, List.flatMap_append]

end Tags

/-- **The text of what is written is that of the pieces.** -/
theorem textOf_writeAll {pieces : List Markup} (h : ∀ p ∈ pieces, p.Readable) :
    textOf (writeAll pieces) = String.ofList (pieces.flatMap Markup.content) := by
  rw [textOf, stripTags_writeAll h, decode_escapeChars]

/-! ## The text of a tree -/

/-- The text of some pieces without its line breaks. -/
def shown (pieces : List Markup) : String :=
  unbroken (String.ofList (pieces.flatMap Markup.content))

theorem unbroken_append (s t : String) : unbroken (s ++ t) = unbroken s ++ unbroken t := by
  simp [unbroken, String.ofList_append]

@[simp] theorem unbroken_empty : unbroken "" = "" := rfl

@[simp] theorem unbroken_newline : unbroken "\n" = "" := by decide

section Pieces

variable {xs ys : List Markup} {cssClass : Option String} {attributes : List Attribute}
  {element : Element}

@[simp] theorem shown_append : shown (xs ++ ys) = shown xs ++ shown ys := by
  rw [shown, List.flatMap_append, String.ofList_append, unbroken_append]
  rfl

@[simp] theorem shown_startOf : shown (startOf element cssClass attributes) = "" := by
  rw [startOf]
  cases element.tag? <;> rfl

@[simp] theorem shown_endOf : shown (endOf element) = "" := by
  rw [endOf]
  cases element.tag? <;> rfl

@[simp] theorem shown_text (s : String) : shown [.text s] = unbroken s := by
  simp [shown, Markup.content]

/-- Texts show what they are together. -/
theorem shown_texts (contents : List String) :
    shown (contents.map .text) = unbroken (String.join contents) := by
  simp [shown, unbroken, String.toList_join, List.flatMap_map, Markup.content]

@[simp] theorem shown_inContainer (container : Option Container) :
    shown (inContainer container xs) = shown xs := by
  cases container with
  | none => rfl
  | some c => simp [inContainer]

@[simp] theorem shown_footnoteLink (label : String) :
    shown (footnoteLink label) = unbroken label := by
  simp [shown, footnoteLink, Markup.content]

theorem shown_inElement_of_isVoid (h : element.isVoid = true) :
    shown (inElement element cssClass attributes xs) = "" := by
  simp [inElement, h]

/-- An element shows its content, unless it is void. -/
theorem shown_inElement (h : element.isVoid = false) :
    shown (inElement element cssClass attributes xs) = shown xs := by
  simp [inElement, h]

end Pieces

section Rows

variable {nodes : List Node}

theorem shown_markupRow
    (h : ∀ node ∈ nodes, shown (markup node.styled) = unbroken node.visible)
    (afterBlock : Bool) :
    shown (markupRow afterBlock (Node.styledAll nodes)) = unbroken (Node.visibleAll nodes) := by
  induction nodes generalizing afterBlock with
  | nil => rfl
  | cons node rest ih =>
    rw [List.forall_mem_cons] at h
    -- the line break between two blocks is not counted
    have hbreak : shown (if afterBlock && node.styled.kind.isBlock then [.text "\n"] else []) =
        "" := by
      split <;> rfl
    rw [Node.styledAll, markupRow, shown_append, shown_append, hbreak, h.1, ih h.2,
      Node.visibleAll, unbroken_append, String.empty_append]

theorem shown_markupHeads_of_ne (h : ∀ node ∈ nodes, node.kind ≠ .tableHead) :
    shown (markupHeads (Node.styledAll nodes)) = "" := by
  induction nodes with
  | nil => rfl
  | cons node rest ih =>
    rw [List.forall_mem_cons] at h
    rw [Node.styledAll, markupHeads, Node.kind_styled, if_neg h.1]
    exact ih h.2

/-- The heads and then all else are the rows as they are, if the heads lead. -/
theorem shown_markupHeads_append_markupBody (hlead : Node.HeadsLead nodes)
    (h : ∀ node ∈ nodes, shown (markup node.styled) = unbroken node.visible) :
    shown (markupHeads (Node.styledAll nodes)) ++ shown (markupBody (Node.styledAll nodes)) =
      unbroken (Node.visibleAll nodes) := by
  induction nodes with
  | nil => rfl
  | cons node rest ih =>
    rw [List.forall_mem_cons] at h
    obtain ⟨hfirst, hrest⟩ := List.pairwise_cons.mp hlead
    have hih := ih hrest h.2
    rw [Node.styledAll, markupHeads, markupBody, Node.visibleAll, unbroken_append, ← hih, ← h.1,
      Node.kind_styled]
    by_cases hkind : node.kind = .tableHead
    · simp [hkind, String.append_assoc]
    · -- after a row that is no head there is none
      have hnone : shown (markupHeads (Node.styledAll rest)) = "" :=
        shown_markupHeads_of_ne fun second hsecond hhead => hkind (hfirst second hsecond hhead)
      simp [hkind, hnone]

/-- **A table shows its rows in order** if its heads lead. -/
theorem shown_tableMarkup (hlead : Node.HeadsLead nodes)
    (h : ∀ node ∈ nodes, shown (markup node.styled) = unbroken node.visible) :
    shown (tableMarkup (Node.styledAll nodes)) = unbroken (Node.visibleAll nodes) := by
  rw [← shown_markupHeads_append_markupBody hlead h, tableMarkup, shown_append]
  split
  · next hall => rw [markupBody_of_all hall]
  · simp [shown, Markup.content]

end Rows

/-- The conditions under which a page shows all text of its tree, and in order: no leaf has
children, and the heads of every table come first. -/
structure Showable (tree : Node) : Prop where
  bare : ∀ node ∈ tree.preorder, node.Bare
  heads : tree.HeadsFirst

theorem Showable.child {kind : NodeKind} {children : List Node} {child : Node}
    (h : Showable ⟨kind, children⟩) (hchild : child ∈ children) : Showable child := by
  have hmem : ∀ node ∈ child.preorder, node ∈ Node.preorder ⟨kind, children⟩ := by
    intro node hnode
    rw [Node.preorder]
    exact List.mem_cons_of_mem _ (Node.mem_preorderAll.mpr ⟨child, hchild, hnode⟩)
  exact ⟨fun node hnode => h.bare node (hmem node hnode),
    fun node hnode => h.heads node (hmem node hnode)⟩

/-- **The HTML of a tree shows the text of the tree.** -/
theorem shown_markup (node : Node) (h : Showable node) :
    shown (markup node.styled) = unbroken node.visible := by
  induction node using Node.induction with
  | node kind children ih =>
    have hchildren : ∀ child ∈ children, shown (markup child.styled) = unbroken child.visible :=
      fun child hchild => ih child hchild (h.child hchild)
    have hrow : shown (markupRow false (Node.styledAll children)) =
        unbroken ("" ++ Node.visibleAll children) := by
      rw [shown_markupRow hchildren, String.empty_append]
    have hself := Node.self_mem_preorder ⟨kind, children⟩
    have hleaf : kind.isLeaf = true → children = [] := h.bare _ hself
    rw [Node.styled]
    unfold markup
    rw [shown_inContainer]
    -- the kinds that are written in a way of their own, and then those that are just an
    -- element around their children
    cases kind with
    | text content | html content | softBreak =>
      obtain rfl := hleaf rfl
      simp [Node.visible, Node.visibleAll, NodeKind.shown]
    | footnoteReference label =>
      obtain rfl := hleaf rfl
      rw [shown_inElement rfl, shown_footnoteLink]
      simp [Node.visible, Node.visibleAll, NodeKind.shown]
    | hardBreak | thematicBreak | taskListMarker checked =>
      obtain rfl := hleaf rfl
      exact shown_inElement_of_isVoid rfl
    | image src title => exact shown_startOf
    | tableHead =>
      simp only [shown_append, shown_startOf, shown_endOf, String.empty_append,
        String.append_empty]
      exact hrow
    | table =>
      have htable := shown_tableMarkup (h.heads _ hself rfl) hchildren
      simpa [tableMarkup, Node.visible, NodeKind.shown] using htable
    | code display language =>
      rw [children_rule_code, shown_inElement rfl, StyledNode.leafTexts_styledAll]
      exact shown_texts (Node.leafTexts children)
    | heading level =>
      rw [children_rule_heading, shown_inElement (isVoid_heading level)]
      exact hrow
    | tableCell header alignment =>
      have hvoid : (NodeKind.tableCell header alignment).element.isVoid = false := by
        cases header <;> rfl
      exact (shown_inElement hvoid).trans hrow
    | _ => exact (shown_inElement rfl).trans hrow

/-- **A page loses no text and keeps its order.** What a stream is built to shows on the page what
it shows by itself, line breaks apart, if the heads of its tables come first. -/
theorem unbroken_textOf_serialize (events : List Event) (h : (Node.ofEvents events).HeadsFirst) :
    unbroken (textOf (serialize (Node.ofEvents events).styled)) =
      unbroken (Node.ofEvents events).visible := by
  have hbare : ∀ node ∈ (Node.ofEvents events).preorder, node.Bare := Node.bare_ofEvents events
  rw [serialize, textOf_writeAll (inert_markup _).readable]
  exact shown_markup _ ⟨hbare, h⟩

/-- A table with text of every sort in it, and with code around an image at its unclosed end. -/
def tableStream : List Event :=
  [.start (.table [.none, .right]), .start .tableHead, .start .tableCell, .text "R&D",
    .stop .tableCell, .stop .tableHead, .start .tableRow, .start .tableCell, .text "a < b\n",
    .softBreak, .inlineHtml "<i>", .footnoteReference "1", .stop .tableCell, .start .tableCell,
    .start (.image "x.png" "it's"), .text "no", .stop .image, .start (.codeBlock none),
    .text "&lt;", .start (.image "y.png" ""), .text "yes"]

theorem unbroken_textOf_serialize_tableStream : (Node.ofEvents tableStream).HeadsFirst ∧
    unbroken (textOf (serialize (Node.ofEvents tableStream).styled)) =
      "R&Da < b<i>1&lt;yes" := by
  have hheads : (Node.ofEvents tableStream).HeadsFirst := by decide
  have htext : unbroken (Node.ofEvents tableStream).visible = "R&Da < b<i>1&lt;yes" := by decide
  exact ⟨hheads, (unbroken_textOf_serialize tableStream hheads).trans htext⟩

end Html

end MarkView
