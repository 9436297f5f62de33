import MarkView.Proofs.Tree.Linear
/-!
# Streams one after the other

Where a stream leaves nothing open, what follows it is built as if it stood alone. The tree of the
two streams together has the children of both roots, one row after the other, and only where the
rows meet can two leaves have become one (`ofEvents_append`).

Three things cross the border between two streams. The depth is 0 there, as nothing is open. The
table place may be any, but all that reads it is a cell, and the first table sets it anew
(`finish_foldl_withTable`). What is left are the children that the root has already: a builder
that starts with them does what one without them does, and puts its own row after theirs
(`push_precededBy`).
-/

namespace MarkView

namespace Event

/-- The event starts a table. -/
def startsTable : Event → Bool
  | .start (.table _) => true
  | _ => false

/-- A stream that leaves no element open. A stop where nothing is open does not count. -/
def LeavesNoneOpen (events : List Event) : Prop := events.foldl depthAfter 0 = 0

/-- No cell starts before the first table does. -/
def CellsFollowTable (events : List Event) : Prop :=
  .start .tableCell ∉ events.takeWhile (!·.startsTable)

instance (events : List Event) : Decidable (LeavesNoneOpen events) :=
  inferInstanceAs (Decidable (_ = 0))

instance (events : List Event) : Decidable (CellsFollowTable events) :=
  inferInstanceAs (Decidable (_ ∉ _))

variable {event : Event} {events : List Event}

/-- The start of a table sets the table place, whatever it was. -/
theorem eq_start_of_startsTable (h : event.startsTable = true) :
    ∃ alignments, event = .start (.table alignments) := by
  cases event with
  | start tag => cases tag <;> first | exact ⟨_, rfl⟩ | exact nomatch h
  | _ => exact nomatch h

theorem CellsFollowTable.of_cons (h : CellsFollowTable (event :: events))
    (hevent : event.startsTable = false) :
    event ≠ .start .tableCell ∧ CellsFollowTable events := by
  rw [CellsFollowTable, List.takeWhile_cons_of_pos (by simp [hevent]), List.mem_cons, not_or] at h
  exact ⟨fun heq => h.1 heq.symm, h.2⟩

end Event

/-- Of all tags only that of a cell opens what depends on the table place. -/
theorem Tag.kind?_eq_of_ne_tableCell {tag : Tag} (h : tag ≠ .tableCell)
    (place place' : TablePlace) : tag.kind? place = tag.kind? place' := by
  cases tag with
  | tableCell => exact absurd rfl h
  | list start => cases start <;> rfl
  | _ => rfl

namespace Node

/-- Put one row after another, neighbours at the border being merged. In both rows the latest node
comes first. -/
def putRow (onto row : List Node) : List Node := row.foldr (fun node row => putNode row node) onto

variable {onto row : List Node} {node : Node}

@[simp] theorem putRow_cons : putRow onto (node :: row) = putNode (putRow onto row) node := rfl

/-- **Rows are put together the same way**, however the second one was put together. -/
theorem putRow_putNode : putRow onto (putNode row node) = putNode (putRow onto row) node := by
  cases row with
  | nil => rfl
  | cons last earlier =>
    cases h : last.merge? node with
    | none => rw [putNode_of_merge?_none h, putRow_cons]
    | some both =>
      rw [putNode_of_merge? h, putRow_cons, putRow_cons]
      exact (putNode_putNode h).symm

/-- An element that ends a row stands by itself after the other row as well. -/
theorem putRow_cons_of_not_isLeaf (h : node.kind.isLeaf = false) :
    putRow onto (node :: row) = node :: putRow onto row :=
  putNode_of_not_isLeaf h

/-- In document order, rows in which nothing can be merged are merged at their border. -/
theorem reverse_putRow_reverse (h : Separate onto) :
    (putRow onto.reverse row.reverse).reverse = mergeRow (onto ++ row) := by
  have honto : onto.foldl putNode [] = onto.reverse := by
    rw [← List.reverse_eq_iff]
    exact h.reverse_foldl_putNode
  rw [putRow, List.foldr_reverse, mergeRow_eq_foldl, List.foldl_append, honto]

end Node

namespace Builder

open Node (putNode putRow)

variable {b : Builder} {kind : NodeKind} {event : Event} {events : List Event}
  {before : List Node} {f : List Node → List Node}

/-! ## The table place -/

section Place

variable (place : TablePlace)

theorem openElement_withTable :
    { b with table := place }.openElement kind = { b.openElement kind with table := place } := by
  have hroom : ({ b with table := place } : Builder).hasRoom = b.hasRoom := rfl
  rw [openElement, openElement, hroom]
  split <;> rfl

theorem closeElement_withTable :
    { b with table := place }.closeElement = { b.closeElement with table := place } := by
  simp only [closeElement]
  split
  · rfl
  · split
    · rfl
    · next frame outer _ => exact updateChildren_withTable (b := { b with opened := outer }) place

theorem closeElements_withTable (n : Nat) :
    closeElements n { b with table := place } = { closeElements n b with table := place } := by
  induction n generalizing b with
  | zero => rfl
  | succ n ih => rw [closeElements, closeElement_withTable, ih, closeElements]

/-- The end of a stream does not look at the place. -/
theorem finish_withTable : ({ b with table := place } : Builder).finish = b.finish := by
  have hdepth : ({ b with table := place } : Builder).depth = b.depth := rfl
  rw [finish, finish, hdepth, closeElements_withTable]

/-- **But for the start of a cell, an event does the same in every place.** -/
theorem push_withTable (h : event ≠ .start .tableCell) :
    { b with table := place }.push event =
      { b.push event with table := event.placeAfter place } := by
  cases event with
  | start tag =>
    have htag : tag ≠ .tableCell := fun htag => h (congrArg Event.start htag)
    simp only [push, start, Event.placeAfter, Tag.kind?_eq_of_ne_tableCell htag place b.table]
    cases hkind : tag.kind? b.table with
    | none =>
      rw [TablePlace.enter_of_isTransparent (Tag.kind?_eq_none_iff.mp hkind)]
    | some kind => simp only [openElement_withTable]
  | stop name =>
    simp only [push, stop, Event.placeAfter]
    split
    · next hname => rw [TablePlace.leave_of_isTransparent hname]
    · simp only [closeElement_withTable]
  | code content =>
    simp only [push, addText_eq, put, openElement_withTable, updateChildren_withTable,
      closeElement_withTable, Event.placeAfter]
  | _ =>
    rw [push_of_leaf? rfl, push_of_leaf? rfl]
    exact updateChildren_withTable place

/-- **What is built does not depend on the place at the start**, if no cell starts before the first
table. -/
theorem finish_foldl_withTable (h : Event.CellsFollowTable events) :
    (events.foldl push { b with table := place }).finish = (events.foldl push b).finish := by
  induction events generalizing b place with
  | nil => exact finish_withTable place
  | cons event rest ih =>
    cases hevent : event.startsTable with
    | true =>
      -- from here on both builders are the same
      obtain ⟨alignments, rfl⟩ := Event.eq_start_of_startsTable hevent
      rfl
    | false =>
      obtain ⟨hcell, hrest⟩ := h.of_cons hevent
      rw [List.foldl_cons, List.foldl_cons, push_withTable place hcell]
      exact ih (event.placeAfter place) hrest

end Place

/-! ## The children before -/

/-- A builder whose root has other children before its own. -/
def precededBy (before : List Node) (b : Builder) : Builder :=
  { b with root := putRow before b.root }

theorem precededBy_updateChildren (h : ∀ row, putRow before (f row) = f (putRow before row)) :
    (b.updateChildren f).precededBy before = (b.precededBy before).updateChildren f := by
  obtain ⟨opened, root, table, flattened, limit⟩ := b
  cases opened with
  | nil => simp only [updateChildren, precededBy, h]
  | cons frame outer => rfl

theorem precededBy_openElement :
    (b.openElement kind).precededBy before = (b.precededBy before).openElement kind := by
  have hroom : (b.precededBy before).hasRoom = b.hasRoom := rfl
  rw [openElement, openElement, hroom]
  split <;> rfl

/-- An element that closes may be the first child after those before. -/
theorem precededBy_closeElement (h : b.Shaped) :
    b.closeElement.precededBy before = (b.precededBy before).closeElement := by
  have hflattened : (b.precededBy before).flattened = b.flattened := rfl
  have hopened : (b.precededBy before).opened = b.opened := rfl
  rw [closeElement, closeElement, hflattened, hopened]
  split
  · rfl
  · split
    · rfl
    · next frame outer hcons =>
      -- where the element lands on the root row, it must not merge with what is before
      have hkind : frame.kind.isLeaf = false := h.kinds frame (by simp [hcons])
      exact precededBy_updateChildren fun row => Node.putRow_cons_of_not_isLeaf hkind

theorem precededBy_put : (b.put kind).precededBy before = (b.precededBy before).put kind :=
  precededBy_updateChildren fun _ => Node.putRow_putNode

/-- **Every event does the same after other children of the root.** -/
theorem push_precededBy (h : b.Shaped) (event : Event) :
    (b.push event).precededBy before = (b.precededBy before).push event := by
  let R := fun b b' : Builder => b.precededBy before = b' ∧ b.Shaped
  have hpush : R (b.push event) ((b.precededBy before).push event) := by
    refine push_rel (R := R) ?_ ?_ ?_ ?_ ⟨rfl, h⟩ rfl event
    · rintro b b' place ⟨rfl, hs⟩
      exact ⟨rfl, hs.withTable place⟩
    · rintro b b' kind hkind ⟨rfl, hs⟩
      exact ⟨precededBy_openElement, hs.openElement hkind⟩
    · rintro b b' ⟨rfl, hs⟩
      exact ⟨precededBy_closeElement hs, hs.closeElement⟩
    · rintro b b' kind - ⟨rfl, hs⟩
      exact ⟨precededBy_put, hs.put⟩
  exact hpush.1

theorem foldl_push_precededBy (h : b.Shaped) (events : List Event) :
    events.foldl push (b.precededBy before) = (events.foldl push b).precededBy before := by
  induction events generalizing b with
  | nil => rfl
  | cons event rest ih =>
    rw [List.foldl_cons, List.foldl_cons, ← push_precededBy h, ih (h.push event)]

theorem closeElements_precededBy (h : b.Shaped) (n : Nat) :
    closeElements n (b.precededBy before) = (closeElements n b).precededBy before := by
  induction n generalizing b with
  | zero => rfl
  | succ n ih =>
    rw [closeElements, closeElements, ← precededBy_closeElement h, ih h.closeElement]

/-- **The document has the children before and then those that it would have alone.** -/
theorem finish_precededBy (h : b.Shaped) :
    (b.precededBy before).finish =
      ⟨.document, (putRow before b.finish.children.reverse).reverse⟩ := by
  have hdepth : (b.precededBy before).depth = b.depth := rfl
  simp only [finish, hdepth, closeElements_precededBy h, List.reverse_reverse]
  rfl

/-! ## Two streams -/

/-- Where nothing is open there are just the children of the root, and the table place. -/
theorem Within.eq_precededBy {limit : Nat} (h : b.Within limit) (hdepth : b.depth = 0) :
    b = { ({ limit := some limit } : Builder).precededBy b.root with table := b.table } := by
  obtain ⟨opened, root, table, flattened, bound⟩ := b
  obtain ⟨hopened, hflat⟩ := Nat.add_eq_zero_iff.mp hdepth
  obtain rfl : opened = [] := List.eq_nil_of_length_eq_zero hopened
  obtain rfl : flattened = 0 := hflat
  obtain rfl : bound = some limit := h.limit_eq
  rfl

theorem children_finish_of_depth_zero (h : b.depth = 0) : b.finish.children = b.root.reverse := by
  rw [finish, h]
  rfl

end Builder

/-- **A stream that follows a finished one is built as if it stood alone.** The two rows of
children are put one after the other, and merged where they meet. -/
theorem Node.ofEvents_append {before after : List Event} (hclosed : Event.LeavesNoneOpen before)
    (hcells : Event.CellsFollowTable after) :
    ofEvents (before ++ after) =
      ⟨.document, mergeRow ((ofEvents before).children ++ (ofEvents after).children)⟩ := by
  let fresh : Builder := { limit := some maxDepth }
  let b := before.foldl Builder.push fresh
  have hdepth : b.depth = 0 := (Builder.foldl_push_depth fresh before).trans hclosed
  have hwithin : b.Within maxDepth := (Builder.Within.init maxDepth).foldl before
  have hfirst : (ofEvents before).children = b.root.reverse :=
    Builder.children_finish_of_depth_zero hdepth
  have hseparate : Separate b.root.reverse := hfirst ▸ (normal_proper_ofEvents before).separate
  have hsecond : (ofEvents after).children = (after.foldl Builder.push fresh).finish.children := rfl
  have hfresh : fresh.Shaped := .init _
  -- the table place goes first, then the children before are taken out of the run
  calc ofEvents (before ++ after)
    _ = (after.foldl Builder.push b).finish := by rw [ofEvents, ofEventsWithin, List.foldl_append]
    _ = (after.foldl Builder.push (fresh.precededBy b.root)).finish := by
      rw [hwithin.eq_precededBy hdepth, Builder.finish_foldl_withTable _ hcells]
      rfl
    _ = ((after.foldl Builder.push fresh).precededBy b.root).finish := by
      rw [Builder.foldl_push_precededBy hfresh]
    _ = ⟨.document, mergeRow (b.root.reverse ++ (ofEvents after).children)⟩ := by
      rw [Builder.finish_precededBy (hfresh.foldl after), hsecond,
        ← reverse_putRow_reverse hseparate, List.reverse_reverse]
    _ = _ := by rw [hfirst]

end MarkView
