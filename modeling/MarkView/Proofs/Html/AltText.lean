import MarkView.Proofs.Html.StartTags
import MarkView.Proofs.Text.Words
/-!
# Alternative texts

An image is written with the literal texts below it, put together, as its alternative text. What
stands below it is content as well, and read as content it has a line break wherever there is one
(`StyledNode.reading`). A line break has no literal text, and nothing comes in its place, so two
words that only a line break keeps apart are one word of the alternative text.

`altTexts_serialize` says of each image of a page what its alternative text is, and when that has
the words of the content: just when no line break divides a word. The alternative texts are read
from the page, so for each way of putting pieces together there is a lemma that tells those of the
result (`pieceAlts`), and `pieceAlts_markup` goes along the tree with them.
-/

namespace MarkView

/-! ## Readings -/

/-- What a kind adds to a reading: its characters, or a line break. -/
def NodeKind.reading : NodeKind → List (Option Char)
  | .text content | .html content => content.toList.map some
  | .softBreak | .hardBreak => [none]
  | _ => []

theorem NodeKind.reduceOption_reading (kind : NodeKind) :
    kind.reading.reduceOption = kind.literal?.toList.flatMap String.toList := by
  cases kind <;> simp [reading, literal?, List.reduceOption]

namespace StyledNode

mutual

/-- **What a tree reads as content**, in document order: the characters of its literal texts, and
`none` for each of its line breaks. -/
def reading : StyledNode → List (Option Char)
  | ⟨kind, _, children⟩ => kind.reading ++ readingAll children

/-- What a row of trees reads. -/
def readingAll : List StyledNode → List (Option Char)
  | [] => []
  | node :: rest => node.reading ++ readingAll rest

end

mutual

/-- Without its line breaks a reading is the literal text. -/
theorem reduceOption_reading : ∀ node : StyledNode,
    node.reading.reduceOption = node.leafText.flatMap String.toList
  | ⟨kind, rule, children⟩ => by
    rw [reading, leafText, List.reduceOption_append, List.flatMap_append,
      NodeKind.reduceOption_reading, reduceOption_readingAll children]

theorem reduceOption_readingAll : ∀ row : List StyledNode,
    (readingAll row).reduceOption = (leafTexts row).flatMap String.toList
  | [] => rfl
  | node :: rest => by
    rw [readingAll, leafTexts, List.reduceOption_append, List.flatMap_append,
      reduceOption_reading node, reduceOption_readingAll rest]

end

theorem toList_plainText (node : StyledNode) :
    node.plainText.toList = node.reading.reduceOption := by
  rw [plainText, String.toList_join, reduceOption_reading]

mutual

/-- **The images that are written of a tree**, in the order of the page. Nothing below an image is
written as an element, and nothing below a node whose text is kept as it is; in a table the heads
come first. -/
def images : StyledNode → List StyledNode
  | ⟨kind, rule, children⟩ =>
    match kind with
    | .image src title => [⟨.image src title, rule, children⟩]
    | .text _ | .html _ | .softBreak | .footnoteReference _ => []
    | .tableHead => imagesWhere (fun _ => true) children
    | .table =>
      imagesWhere (· = .tableHead) children ++ imagesWhere (· ≠ .tableHead) children
    | _ =>
      if kind.element.isVoid || rule.children = .verbatim then []
      else imagesWhere (fun _ => true) children

/-- The images that are written of those in a row whose kind has a property. -/
def imagesWhere (p : NodeKind → Bool) : List StyledNode → List StyledNode
  | [] => []
  | node :: rest => (if p node.kind then node.images else []) ++ imagesWhere p rest

end

end StyledNode

namespace Html

/-! ## Reading alternative texts -/

/-- The alternative texts that some start tags have. -/
def altTexts (tags : List StartTag) : List String := tags.filterMap (·.value? "alt")

/-- The alternative texts in some pieces of HTML. -/
def pieceAlts (pieces : List Markup) : List String := altTexts (pieceTags pieces)

theorem value?_alt_eq_none {name : String} {attributes : List Attribute}
    (h : ∀ a ∈ attributes, a.name ≠ "alt") : StartTag.value? ⟨name, attributes⟩ "alt" = none := by
  have hnone : attributes.find? (·.name == "alt") = none := by simpa using h
  rw [StartTag.value?, hnone]
  rfl

theorem name_classAttribute_ne (cssClass : Option String) :
    ∀ a ∈ classAttribute cssClass, a.name ≠ "alt" := by
  cases cssClass <;> simp [classAttribute, Attribute.ofValue]

/-- No kind but an image has an alternative text. -/
theorem name_ownAttributes_ne (kind : NodeKind) : ∀ a ∈ ownAttributes kind, a.name ≠ "alt" :=
  fun a ha => ne_of_mem_of_not_mem (name_mem_ownNames kind a ha) (by decide)

section Pieces

variable {xs ys : List Markup} {element : Element} {cssClass : Option String}
  {attributes : List Attribute}

@[simp] theorem pieceAlts_nil : pieceAlts [] = [] := rfl

@[simp] theorem pieceAlts_append : pieceAlts (xs ++ ys) = pieceAlts xs ++ pieceAlts ys := by
  simp [pieceAlts, altTexts]

theorem pieceAlts_of_pieceTags (h : pieceTags xs = []) : pieceAlts xs = [] := by
  rw [pieceAlts, h]
  rfl

@[simp] theorem pieceAlts_endOf : pieceAlts (endOf element) = [] :=
  pieceAlts_of_pieceTags pieceTags_endOf

theorem pieceAlts_startOf (h : ∀ a ∈ attributes, a.name ≠ "alt") :
    pieceAlts (startOf element cssClass attributes) = [] := by
  have hall : ∀ a ∈ classAttribute cssClass ++ attributes, a.name ≠ "alt" :=
    List.forall_mem_append.mpr ⟨name_classAttribute_ne cssClass, h⟩
  rw [pieceAlts, pieceTags_startOf, elementTags]
  cases element.tag? with
  | none => rfl
  | some tag => simp [altTexts, value?_alt_eq_none hall]

/-- An image is written with its alternative text. -/
theorem pieceAlts_image (src title alt : String) :
    pieceAlts (startOf .img cssClass (imageAttributes src title alt)) = [alt] := by
  have hbefore : (classAttribute cssClass ++
      (.ofValue "src" (safeUrl src) :: titleAttribute title)).find? (·.name == "alt") = none := by
    rw [List.find?_eq_none]
    intro a ha
    have hname : a.name ≠ "alt" := by
      rcases List.mem_append.mp ha with ha | ha
      · exact name_classAttribute_ne cssClass a ha
      · rcases List.mem_cons.mp ha with rfl | ha
        · simp [Attribute.ofValue]
        · simp [name_titleAttribute title a ha]
    simpa using hname
  have hvalue : StartTag.value? ⟨"img", classAttribute cssClass ++ imageAttributes src title alt⟩
      "alt" = some alt := by
    rw [StartTag.value?, imageAttributes, ← List.append_assoc, List.find?_append, hbefore]
    rfl
  rw [pieceAlts, pieceTags_startOf, elementTags, altTexts]
  exact List.filterMap_cons_some hvalue

theorem pieceAlts_inElement (h : ∀ a ∈ attributes, a.name ≠ "alt") :
    pieceAlts (inElement element cssClass attributes xs) =
      if element.isVoid then [] else pieceAlts xs := by
  rw [inElement, pieceAlts_append, pieceAlts_startOf h]
  split <;> simp

theorem pieceAlts_inContainer (container : Option Container) :
    pieceAlts (inContainer container xs) = pieceAlts xs := by
  cases container with
  | none => rfl
  | some c => simp [inContainer, pieceAlts_startOf]

@[simp] theorem pieceAlts_footnoteLink (label : String) : pieceAlts (footnoteLink label) = [] := by
  rw [pieceAlts, pieceTags_footnoteLink]
  rfl

end Pieces

/-! ## Trees -/

section Rows

variable {row : List StyledNode}

theorem pieceAlts_markupRow
    (h : ∀ node ∈ row, pieceAlts (markup node) = node.images.map (·.plainText))
    (afterBlock : Bool) :
    pieceAlts (markupRow afterBlock row) =
      (StyledNode.imagesWhere (fun _ => true) row).map (·.plainText) := by
  induction row generalizing afterBlock with
  | nil => rfl
  | cons node rest ih =>
    rw [List.forall_mem_cons] at h
    have hbreak : pieceAlts (if afterBlock && node.kind.isBlock then [.text "\n"] else []) = [] := by
      split
      · exact pieceAlts_of_pieceTags (pieceTags_text "\n")
      · rfl
    rw [markupRow, pieceAlts_append, pieceAlts_append, hbreak, h.1, ih h.2, StyledNode.imagesWhere,
      List.map_append]
    rfl

theorem pieceAlts_markupHeads
    (h : ∀ node ∈ row, pieceAlts (markup node) = node.images.map (·.plainText)) :
    pieceAlts (markupHeads row) =
      (StyledNode.imagesWhere (· = .tableHead) row).map (·.plainText) := by
  induction row with
  | nil => rfl
  | cons node rest ih =>
    rw [List.forall_mem_cons] at h
    rw [markupHeads, pieceAlts_append, ih h.2, StyledNode.imagesWhere, List.map_append]
    by_cases hkind : node.kind = .tableHead <;> simp [hkind, h.1]

theorem pieceAlts_markupBody
    (h : ∀ node ∈ row, pieceAlts (markup node) = node.images.map (·.plainText)) :
    pieceAlts (markupBody row) =
      (StyledNode.imagesWhere (· ≠ .tableHead) row).map (·.plainText) := by
  induction row with
  | nil => rfl
  | cons node rest ih =>
    rw [List.forall_mem_cons] at h
    rw [markupBody, pieceAlts_append, ih h.2, StyledNode.imagesWhere, List.map_append]
    by_cases hkind : node.kind = .tableHead <;> simp [hkind, h.1]

theorem pieceAlts_tableMarkup
    (h : ∀ node ∈ row, pieceAlts (markup node) = node.images.map (·.plainText)) :
    pieceAlts (tableMarkup row) =
      (StyledNode.imagesWhere (· = .tableHead) row ++
        StyledNode.imagesWhere (· ≠ .tableHead) row).map (·.plainText) := by
  rw [List.map_append, ← pieceAlts_markupHeads h, ← pieceAlts_markupBody h, tableMarkup,
    pieceAlts_append]
  split
  · next hall => rw [markupBody_of_all hall]
  · have hstart : pieceAlts [.startTag "tbody" []] = [] := rfl
    have hend : pieceAlts [.endTag "tbody"] = [] := rfl
    rw [pieceAlts_append, pieceAlts_append, hstart, hend, List.nil_append, List.append_nil]

end Rows

/-- **The alternative texts of a tree are the literal texts of its images.** -/
theorem pieceAlts_markup (tree : StyledNode) :
    pieceAlts (markup tree) = tree.images.map (·.plainText) := by
  induction tree using StyledNode.induction with
  | node kind rule children ih =>
    have hrow := pieceAlts_markupRow ih false
    have hplain : ∀ element cssClass, pieceAlts (startOf element cssClass []) = [] :=
      fun element cssClass => pieceAlts_startOf (by simp)
    have htexts : pieceAlts ((StyledNode.leafTexts children).map .text) = [] :=
      pieceAlts_of_pieceTags (pieceTags_texts _)
    -- the kinds that are just an element around their children
    have hother : ∀ content, pieceAlts content =
        (if rule.children = .verbatim then []
          else StyledNode.imagesWhere (fun _ => true) children).map (·.plainText) →
        pieceAlts (inElement kind.element (ownClass kind rule) (ownAttributes kind) content) =
          (if kind.element.isVoid || rule.children = .verbatim then []
            else StyledNode.imagesWhere (fun _ => true) children).map (·.plainText) := by
      intro content hcontent
      rw [pieceAlts_inElement (name_ownAttributes_ne kind)]
      cases hvoid : kind.element.isVoid with
      | true => rfl
      | false => simpa using hcontent
    unfold markup
    rw [pieceAlts_inContainer]
    cases kind with
    | text content | html content | softBreak =>
      rw [StyledNode.images]
      exact pieceAlts_of_pieceTags (pieceTags_text _)
    | image src title =>
      rw [StyledNode.images]
      exact pieceAlts_image src title _
    | tableHead =>
      rw [StyledNode.images]
      simpa [hplain] using hrow
    | table =>
      have htable : pieceAlts (startOf .table rule.cssClass [] ++ tableMarkup children ++
          endOf .table) = pieceAlts (tableMarkup children) := by simp [hplain]
      rw [StyledNode.images, ← pieceAlts_tableMarkup ih, ← htable]
      simp only [tableMarkup, List.append_assoc]
    | footnoteReference label =>
      rw [StyledNode.images, pieceAlts_inElement (name_ownAttributes_ne _)]
      exact pieceAlts_footnoteLink label
    | _ =>
      refine hother _ ?_
      split
      · next hverbatim => rw [htexts, if_pos hverbatim, List.map_nil]
      · next hthrough => simpa [hthrough] using hrow

/-! ## Pages -/

/-- **An alternative text keeps its words unless a line break divides one.** The alternative texts
of a page are the literal texts of the images that are written, one by one. Each has the words that
the content of its image has with white space for every line break, just when none of these divides
a word: when each has white space, or nothing, on one of its sides. -/
theorem altTexts_serialize (tree : StyledNode) :
    ∃ tokens, lex (serialize tree) = some tokens ∧
      altTexts (startTags tokens) = tree.images.map (·.plainText) ∧
      ∀ image ∈ tree.images,
        Text.words image.plainText.toList = Text.words (image.reading.map (·.getD '\n')) ↔
          ¬ Text.Divided image.reading := by
  refine ⟨_, lex_writeAll (inert_markup tree).readable, pieceAlts_markup tree, fun image _ => ?_⟩
  rw [StyledNode.toList_plainText]
  exact Text.words_reduceOption_eq_iff

/-- An image with its alternative text on two lines. -/
def twoLines : StyledNode :=
  (Node.ofEvents [.start .paragraph, .start (.image "x.png" ""), .text "foo", .softBreak,
    .text "bar", .stop .image, .stop .paragraph]).styled

/-- **A line break in an image is lost**: its two words are one in the alternative text. -/
theorem altTexts_twoLines :
    ∃ tokens, lex (serialize twoLines) = some tokens ∧
      (altTexts (startTags tokens)).map (Text.words ·.toList) = [["foobar".toList]] ∧
        twoLines.images.map (fun image => Text.words (image.reading.map (·.getD '\n'))) =
          [["foo".toList, "bar".toList]] := by
  refine ⟨_, lex_writeAll (inert_markup twoLines).readable, ?_, by decide⟩
  have halts : altTexts (startTags ((markup twoLines).flatMap Markup.tokens)) = ["foobar"] := by
    rw [← pieceTags, ← pieceAlts, pieceAlts_markup]
    decide
  rw [halts]
  decide

end Html

end MarkView
