import MarkView.Proofs.Tree.Depth
import MarkView.Proofs.Tree.Shape
/-!
# A tree holds what its stream holds

A walk over a tree meets elements, leaves, and the characters of text and of raw
HTML. The same things can be read off a stream of events in order, with no tree
in between: `Event.readAll` keeps only the depth and the table place. A builder
neither loses nor repeats nor reorders anything (`push_contents`): what the
half-built elements hold, from the outermost to the innermost, is what has been
read so far. Closing an element moves it into its parent, which changes the tree
but not the walk.
-/

namespace MarkView

/-- One thing that a walk over a tree meets. -/
inductive Content
  | node (kind : NodeKind)
  | textChar (c : Char)
  | htmlChar (c : Char)
  deriving DecidableEq, Repr

/-- What a node is for a walk, its children apart: a text or raw HTML its
characters, and every other node itself. -/
def NodeKind.contents : NodeKind → List Content
  | .text content => content.toList.map .textChar
  | .html content => content.toList.map .htmlChar
  | kind => [.node kind]

theorem NodeKind.contents_of_not_isLeaf {kind : NodeKind} (h : kind.isLeaf = false) :
    kind.contents = [.node kind] := by
  cases kind <;> first | rfl | simp [isLeaf] at h

namespace Node

mutual

/-- What a walk over a tree meets, in document order. -/
def contents : Node → List Content
  | ⟨kind, children⟩ => kind.contents ++ contentsAll children

/-- What a walk over a row of trees meets. -/
def contentsAll : List Node → List Content
  | [] => []
  | node :: rest => node.contents ++ contentsAll rest

end

@[simp] theorem contents_leaf (kind : NodeKind) : (leaf kind).contents = kind.contents := by
  simp [leaf, contents, contentsAll]

@[simp] theorem contentsAll_append (xs ys : List Node) :
    contentsAll (xs ++ ys) = contentsAll xs ++ contentsAll ys := by
  induction xs with
  | nil => rfl
  | cons x rest ih => simp [contentsAll, ih]

/-- Merging a leaf with one before it keeps the characters of both. -/
theorem contents_merge? {last both : Node} {kind : NodeKind} (hlast : last.Bare)
    (h : last.merge? (leaf kind) = some both) :
    both.contents = last.contents ++ kind.contents := by
  obtain ⟨k, below⟩ := last
  rcases merge?_eq_some_iff.mp h with ⟨s, t, rfl, hk, rfl⟩ | ⟨s, t, rfl, hk, rfl⟩ <;>
    obtain rfl := hlast rfl <;>
    simp_all [contents, contentsAll, NodeKind.contents, leaf]

/-- **A leaf that is put into a row adds what it is at the end.** -/
theorem contentsAll_putNode {row : List Node} {kind : NodeKind}
    (hrow : ∀ node ∈ row, node.Bare) :
    contentsAll (putNode row (leaf kind)).reverse = contentsAll row.reverse ++ kind.contents := by
  cases row with
  | nil => simp [putNode, leaf, contentsAll, contents]
  | cons last earlier =>
    cases h : last.merge? (leaf kind) with
    | none =>
      rw [putNode_of_merge?_none h]
      simp [contentsAll]
    | some both =>
      rw [putNode_of_merge? h]
      simp [contentsAll, contents_merge? (hrow last (by simp)) h]

end Node

namespace Builder

variable {b : Builder} {kind : NodeKind}

/-- What the half-built elements hold, from the outermost to the innermost. -/
def framesContents : List Frame → List Content
  | [] => []
  | frame :: outer =>
    framesContents outer ++ frame.kind.contents ++ Node.contentsAll frame.children.reverse

/-- What a builder has taken in so far. -/
def contents (b : Builder) : List Content :=
  Node.contentsAll b.root.reverse ++ framesContents b.opened

theorem put_contents (h : b.Shaped) : (b.put kind).contents = b.contents ++ kind.contents := by
  obtain ⟨opened, root, table, flattened, limit⟩ := b
  cases opened with
  | nil => simp [put, updateChildren, contents, framesContents, Node.contentsAll_putNode h.root]
  | cons frame outer =>
    have hrow := h.rows frame (by simp)
    simp [put, updateChildren, contents, framesContents, Node.contentsAll_putNode hrow]

theorem openElement_contents (hkind : kind.isLeaf = false) :
    (b.openElement kind).contents =
      b.contents ++ if b.hasRoom then [.node kind] else [] := by
  unfold openElement
  split <;> simp_all [contents, framesContents, Node.contentsAll, NodeKind.contents_of_not_isLeaf]

/-- **Closing an element changes the tree and not the walk.** -/
@[simp] theorem closeElement_contents : b.closeElement.contents = b.contents := by
  obtain ⟨opened, root, table, flattened, limit⟩ := b
  unfold closeElement
  split
  · rfl
  · cases opened with
    | nil => rfl
    | cons frame outer =>
      -- the parent is the next frame, or the root
      cases outer <;>
        simp [append, updateChildren, contents, framesContents, Node.contentsAll, Node.contents]

@[simp] theorem closeElements_contents (n : Nat) : (closeElements n b).contents = b.contents := by
  induction n generalizing b with
  | zero => rfl
  | succ n ih => rw [closeElements, ih, closeElement_contents]

end Builder

/-! ## Reading a stream -/

namespace Event

/-- What an event adds, where `depth` elements are open and the table place is
`place`. An element beyond the limit adds nothing of its own. -/
def contents (limit : Nat) (place : TablePlace) (depth : Nat) : Event → List Content
  | .start tag => if depth < limit then (tag.kind? place).toList.map .node else []
  | .stop _ => []
  | .text content => content.toList.map .textChar
  | .code content =>
    (if depth < limit then [.node (.code .inline none)] else []) ++
      content.toList.map .textChar
  | .html content => content.toList.map .htmlChar
  | .inlineHtml content => content.toList.map .htmlChar
  | .inlineMath content => ("$" ++ content ++ "$").toList.map .textChar
  | .displayMath content => ("$$" ++ content ++ "$$").toList.map .textChar
  | .footnoteReference label => [.node (.footnoteReference label)]
  | .softBreak => [.node .softBreak]
  | .hardBreak => [.node .hardBreak]
  | .rule => [.node .thematicBreak]
  | .taskListMarker checked => [.node (.taskListMarker checked)]

/-- What a stream holds, read off in order. -/
def readAll (limit : Nat) (place : TablePlace) (depth : Nat) : List Event → List Content
  | [] => []
  | event :: rest =>
    event.contents limit place depth ++
      readAll limit (event.placeAfter place) (event.depthAfter depth) rest

end Event

namespace Builder

variable {b : Builder} {limit : Nat}

/-- **What one event adds** is what is read off it, at the depth and the table
place of the builder. -/
theorem push_contents (hw : b.Within limit) (hs : b.Shaped) (event : Event) :
    (b.push event).contents = b.contents ++ event.contents limit b.table b.depth := by
  have hroom := hw.hasRoom_iff
  cases event with
  | start tag =>
    simp only [push, start, Event.contents]
    cases hk : tag.kind? b.table with
    | none => simp
    | some kind =>
      rw [openElement_contents (Tag.isLeaf_of_kind? hk)]
      by_cases hd : b.depth < limit
      · simp only [if_pos hd]
        exact congrArg (b.contents ++ ·) (if_pos (hroom.mpr hd))
      · simp only [if_neg hd]
        exact congrArg (b.contents ++ ·) (if_neg (mt hroom.mp hd))
  | stop name =>
    simp only [push, stop, Event.contents, List.append_nil]
    split
    · rfl
    · rw [closeElement_contents]; rfl
  | code content =>
    -- where there is no room the text goes to the element around it
    have hs' : (b.openElement (.code .inline none)).Shaped := hs.openElement rfl
    simp only [push, closeElement_contents, addText_eq, put_contents hs', Event.contents]
    rw [openElement_contents rfl, List.append_assoc]
    simp only [hroom]
    rfl
  | _ =>
    rw [push_of_leaf? rfl, put_contents hs]
    rfl

/-- **What a whole stream adds** is what is read off it. -/
theorem foldl_contents (hw : b.Within limit) (hs : b.Shaped) (events : List Event) :
    (events.foldl push b).contents =
      b.contents ++ Event.readAll limit b.table b.depth events := by
  induction events generalizing b with
  | nil => simp [Event.readAll]
  | cons event rest ih =>
    rw [List.foldl_cons, ih (hw.push event) (hs.push event), push_contents hw hs, push_table,
      push_depth, Event.readAll, List.append_assoc]

/-- What a builder has taken in is what its document holds. -/
theorem contents_finish (b : Builder) : Node.contentsAll b.finish.children = b.contents := by
  have hcontents := closeElements_contents (b := b) b.depth
  simpa [finish, contents, closeElements_depth_opened, framesContents] using hcontents

end Builder

/-- **Nothing is lost, repeated or reordered.** A walk over the tree of a stream,
its root left out, meets just what is read off the stream. -/
theorem Node.contents_ofEvents (events : List Event) :
    contentsAll (ofEvents events).children = Event.readAll maxDepth {} 0 events := by
  rw [ofEvents, ofEventsWithin, Builder.contents_finish,
    Builder.foldl_contents (Builder.Within.init maxDepth) (Builder.Shaped.init _)]
  rfl

end MarkView
