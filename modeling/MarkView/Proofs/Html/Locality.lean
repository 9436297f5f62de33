import MarkView.Html.Serialize
import MarkView.Proofs.Html.Written
import MarkView.Proofs.Tree.Joining
/-!
# Rendering is local

A document that ends where nothing is open can be rendered by itself: what comes after it is
written after it, with a line break between two blocks, and neither changes the other
(`serialize_ofEvents_append`).

The tree of both together is that of one row of children after the other, merged at the border.
Merging does not show in HTML (`rowHtml_mergeRow`), since escaping goes character by character and
a leaf that merges is no block. What does go over the border in HTML is whether the last child was
a block, and nothing else (`rowHtml_append`).
-/

namespace MarkView.Html

variable {first second both : Node} {afterBlock : Bool} {row xs ys : List Node}

/-! ## Pieces -/

theorem writeAll_append (xs ys : List Markup) :
    writeAll (xs ++ ys) = writeAll xs ++ writeAll ys := by
  simp [writeAll]

/-- **A text may be escaped in parts.** -/
theorem escape_append (s t : String) : escape (s ++ t) = escape s ++ escape t := by
  rw [← String.toList_inj]
  simp [toList_escape, escapeChars]

/-- A leaf of text or of raw HTML is written as what it holds. -/
theorem serialize_of_literal? {kind : NodeKind} {content : String}
    (h : kind.literal? = some content) (children : List Node) :
    serialize (Node.styled ⟨kind, children⟩) = escape content := by
  have hmarkup : markup (Node.styled ⟨kind, children⟩) = [.text content] := by
    rw [Node.styled]
    unfold markup
    cases kind <;> cases h <;> rfl
  simp [serialize, hmarkup, writeAll, Markup.write]

/-- **What merges is written as its two parts**, and neither these nor the whole is a block. -/
theorem serialize_merge? (h : first.merge? second = some both) :
    serialize both.styled = serialize first.styled ++ serialize second.styled ∧
      first.kind.isBlock = false ∧ second.kind.isBlock = false ∧ both.kind.isBlock = false := by
  obtain ⟨firstKind, firstChildren⟩ := first
  obtain ⟨secondKind, secondChildren⟩ := second
  -- two texts, or two pieces of raw HTML
  rcases Node.merge?_eq_some_iff.mp h with ⟨s, t, rfl, rfl, rfl⟩ | ⟨s, t, rfl, rfl, rfl⟩ <;>
    refine ⟨?_, rfl, rfl, rfl⟩ <;>
    rw [serialize_of_literal? rfl, serialize_of_literal? rfl, serialize_of_literal? rfl,
      escape_append]

/-! ## Rows -/

/-- The HTML of a row of siblings, of which the one before may be a block. -/
def rowHtml (afterBlock : Bool) (row : List Node) : String :=
  writeAll (markupRow afterBlock (Node.styledAll row))

@[simp] theorem rowHtml_nil : rowHtml afterBlock [] = "" := rfl

theorem rowHtml_cons (node : Node) (rest : List Node) :
    rowHtml afterBlock (node :: rest) =
      (if afterBlock && node.kind.isBlock then "\n" else "") ++ serialize node.styled ++
        rowHtml node.kind.isBlock rest := by
  have hbreak : writeAll (if afterBlock && node.kind.isBlock then [.text "\n"] else []) =
      if afterBlock && node.kind.isBlock then "\n" else "" := by
    split
    · decide
    · rfl
  rw [rowHtml, Node.styledAll, markupRow, Node.kind_styled, writeAll_append, writeAll_append,
    hbreak]
  rfl

/-- **Merging neighbours does not show.** -/
theorem rowHtml_mergeRow (row : List Node) :
    rowHtml afterBlock (Node.mergeRow row) = rowHtml afterBlock row := by
  induction row using Node.mergeRow.induct generalizing afterBlock with
  | case1 => rw [Node.mergeRow]
  | case2 node => rw [Node.mergeRow]
  | case3 first second rest both hboth ih =>
    obtain ⟨hwritten, hfirst, hsecond, hmerged⟩ := serialize_merge? hboth
    rw [Node.mergeRow, hboth]
    -- none of the three is a block, so there is no line break before or after them
    simp only [ih, rowHtml_cons, hfirst, hsecond, hmerged, hwritten, Bool.and_false,
      Bool.false_eq_true, if_false, String.empty_append, String.append_assoc]
  | case4 first second rest hnone ih =>
    rw [Node.mergeRow, hnone, rowHtml_cons, rowHtml_cons, ih]

/-- **Of the row before, only its last node matters**, and only whether it is a block. -/
theorem rowHtml_append (xs ys : List Node) :
    rowHtml afterBlock (xs ++ ys) =
      rowHtml afterBlock xs ++ rowHtml (xs.getLast?.elim afterBlock (·.kind.isBlock)) ys := by
  induction xs generalizing afterBlock with
  | nil => exact String.empty_append.symm
  | cons node rest ih =>
    have hlast : rest.getLast?.elim node.kind.isBlock (·.kind.isBlock) =
        (node :: rest).getLast?.elim afterBlock (·.kind.isBlock) := by
      rw [List.getLast?_cons]
      cases rest.getLast? <;> rfl
    rw [List.cons_append, rowHtml_cons, rowHtml_cons, ih, hlast]
    simp only [String.append_assoc]

/-- The line break between two rows: there is one if a block ends the first and a block begins the
second. -/
def breakBetween (xs ys : List Node) : String :=
  if xs.getLast?.any (·.kind.isBlock) && ys.head?.any (·.kind.isBlock) then "\n" else ""

theorem rowHtml_append_eq (xs ys : List Node) :
    rowHtml false (xs ++ ys) = rowHtml false xs ++ breakBetween xs ys ++ rowHtml false ys := by
  have hlast : xs.getLast?.elim false (·.kind.isBlock) = xs.getLast?.any (·.kind.isBlock) := by
    cases xs.getLast? <;> rfl
  rw [rowHtml_append, hlast, breakBetween, String.append_assoc]
  cases ys with
  | nil => simp
  | cons node rest => simp [rowHtml_cons, String.append_assoc]

/-! ## Documents -/

/-- A document is written as its children. -/
theorem serialize_document (children : List Node) :
    serialize (Node.styled ⟨.document, children⟩) = rowHtml false children := by
  have hmarkup : markup (Node.styled ⟨.document, children⟩) =
      markupRow false (Node.styledAll children) := by
    rw [Node.styled]
    unfold markup
    exact List.append_nil _
  rw [serialize, hmarkup]
  rfl

theorem serialize_ofEvents (events : List Event) :
    serialize (Node.ofEvents events).styled = rowHtml false (Node.ofEvents events).children :=
  serialize_document _

/-- **Rendering is local.** Where a stream leaves nothing open, the HTML of what follows is written
after its own, with a line break between two blocks. This holds whatever the two streams meet in,
and whatever table the first one had, if in the second no cell starts before the first table. -/
theorem serialize_ofEvents_append {before after : List Event}
    (hclosed : Event.LeavesNoneOpen before) (hcells : Event.CellsFollowTable after) :
    serialize (Node.ofEvents (before ++ after)).styled =
      serialize (Node.ofEvents before).styled ++
        breakBetween (Node.ofEvents before).children (Node.ofEvents after).children ++
        serialize (Node.ofEvents after).styled := by
  rw [Node.ofEvents_append hclosed hcells, serialize_document, rowHtml_mergeRow, rowHtml_append_eq,
    serialize_ofEvents, serialize_ofEvents]

/-- A stream that stops what it has not started, and whose table has a head that no stop names, so
that cells would still be header cells after it. It ends with a text. -/
def unnamedHeadStream : List Event :=
  [.stop .item, .start (.table [.right]), .start .tableHead, .start .tableCell, .text "a",
    .stop .tableCell, .stop .strong, .stop .table, .text "b &"]

/-- A stream that begins with a text, and leaves a cell of its own table open. -/
def openCellStream : List Event :=
  [.text "lt;", .stop .paragraph, .start (.table [.left]), .start .tableRow, .start .tableCell,
    .text "c"]

theorem serialize_ofEvents_append_openCellStream :
    Event.LeavesNoneOpen unnamedHeadStream ∧ Event.CellsFollowTable openCellStream ∧
      serialize (Node.ofEvents (unnamedHeadStream ++ openCellStream)).styled =
        "<table><thead><tr><th style=\"text-align: right\">a</th></tr></thead></table>b &amp;" ++
          "lt;<table><tbody><tr><td style=\"text-align: left\">c</td></tr></tbody></table>" := by
  have hclosed : Event.LeavesNoneOpen unnamedHeadStream := by decide
  have hcells : Event.CellsFollowTable openCellStream := by decide
  refine ⟨hclosed, hcells, (serialize_ofEvents_append hclosed hcells).trans ?_⟩
  rfl

end MarkView.Html
