import MarkView.Proofs.Tree.Depth
import MarkView.Proofs.Tree.Shape
/-!
# The limit to nesting is a flattening

A builder with a limit keeps no frame for an element that opens too deep, only a
count of them. What it builds is nevertheless the tree of the builder without a
limit, flattened: every element below the limit is replaced by its children in
place, and the texts and the raw HTML that this brings together are merged
(`Node.flattenBelow`).

The proof is a simulation. `Builder.squash` says what a builder with the limit
has where a builder without one has the given frames: those above the limit one
by one, and the content of all deeper ones in the deepest that is kept. Each of
the four changes to a builder commutes with it.
-/

namespace MarkView

namespace Node

mutual

/-- What is left of a node where elements are kept `room` levels deep: an element
with what is left of its children, or these alone where there is no room. -/
def squash (room : Nat) : Node → List Node
  | ⟨kind, children⟩ =>
    if kind.isLeaf then [⟨kind, children⟩]
    else if room = 0 then squashAll 0 children
    else [⟨kind, mergeRow (squashAll (room - 1) children)⟩]

/-- What is left of a row of nodes. -/
def squashAll (room : Nat) : List Node → List Node
  | [] => []
  | node :: rest => node.squash room ++ squashAll room rest

end

/-- A tree without the elements that lie deeper than `limit`, the children of the
root being at depth 1. Their children stand in their place. -/
def flattenBelow (limit : Nat) (node : Node) : Node :=
  ⟨node.kind, mergeRow (squashAll limit node.children)⟩

@[simp] theorem squashAll_append (room : Nat) (xs ys : List Node) :
    squashAll room (xs ++ ys) = squashAll room xs ++ squashAll room ys := by
  induction xs with
  | nil => rfl
  | cons x rest ih => simp [squashAll, ih]

theorem squash_of_isLeaf {room : Nat} {node : Node} (h : node.kind.isLeaf = true) :
    node.squash room = [node] := by
  obtain ⟨kind, children⟩ := node
  rw [squash, if_pos h]

/-- Put what is left of a row into another one. In both rows the latest node
comes first. -/
def putSquashed (room : Nat) (onto row : List Node) : List Node :=
  (squashAll room row.reverse).foldl putNode onto

theorem putSquashed_cons (room : Nat) (onto row : List Node) (node : Node) :
    putSquashed room onto (node :: row) =
      (node.squash room).foldl putNode (putSquashed room onto row) := by
  simp [putSquashed, squashAll]

theorem squash_of_not_isLeaf_zero {kind : NodeKind} {row : List Node}
    (h : kind.isLeaf = false) : squash 0 ⟨kind, row⟩ = squashAll 0 row := by
  rw [squash, if_neg (by simp [h]), if_pos rfl]

theorem squash_of_not_isLeaf_succ {kind : NodeKind} {row : List Node} (room : Nat)
    (h : kind.isLeaf = false) :
    squash (room + 1) ⟨kind, row⟩ = [⟨kind, mergeRow (squashAll room row)⟩] := by
  rw [squash, if_neg (by simp [h]), if_neg (Nat.succ_ne_zero room), Nat.add_sub_cancel]

/-- An element with no room around it dissolves into the row. -/
theorem putSquashed_zero_cons {kind : NodeKind} {onto row below : List Node}
    (h : kind.isLeaf = false) :
    putSquashed 0 onto (⟨kind, below.reverse⟩ :: row) =
      putSquashed 0 (putSquashed 0 onto row) below := by
  rw [putSquashed_cons, squash_of_not_isLeaf_zero h]
  rfl

/-- An element with room around it stays, with its own children flattened. -/
theorem putSquashed_succ_cons {kind : NodeKind} {onto row below : List Node} (room : Nat)
    (h : kind.isLeaf = false) :
    putSquashed (room + 1) onto (⟨kind, below.reverse⟩ :: row) =
      ⟨kind, (putSquashed room [] below).reverse⟩ :: putSquashed (room + 1) onto row := by
  rw [putSquashed_cons, squash_of_not_isLeaf_succ room h, List.foldl_cons, List.foldl_nil,
    putNode_of_not_isLeaf h, mergeRow_eq_foldl]
  rfl

/-- Flattening a row and putting a leaf at its end commute. -/
theorem putSquashed_putNode {room : Nat} {onto row : List Node} {node : Node}
    (h : node.kind.isLeaf = true) :
    putSquashed room onto (putNode row node) = putNode (putSquashed room onto row) node := by
  cases row with
  | nil =>
    rw [putNode, putSquashed_cons, squash_of_isLeaf h]
    rfl
  | cons last earlier =>
    cases hm : last.merge? node with
    | none =>
      rw [putNode_of_merge?_none hm, putSquashed_cons, squash_of_isLeaf h]
      rfl
    | some both =>
      -- a leaf that merged is one leaf for the flattened row too
      have hlast : last.kind.isLeaf = true ∧ both.kind.isLeaf = true := by
        rcases merge?_eq_some_iff.mp hm with ⟨s, t, hk, -, rfl⟩ | ⟨s, t, hk, -, rfl⟩ <;>
          exact ⟨by rw [hk]; rfl, rfl⟩
      rw [putNode_of_merge? hm, putSquashed_cons, putSquashed_cons, squash_of_isLeaf hlast.1,
        squash_of_isLeaf hlast.2]
      exact (putNode_putNode hm).symm

end Node

namespace Builder

open Node (putNode putSquashed)

/-- What a builder with a limit has where one without has the given frames over
the state `base` of the root. -/
def squashFrames (limit : Nat) (base : Builder) : List Frame → Builder
  | [] => base
  | frame :: outer =>
    let b := squashFrames limit base outer
    if outer.length < limit then
      b.pushFrame ⟨frame.kind, putSquashed (limit - (outer.length + 1)) [] frame.children⟩
    else (b.updateChildren (putSquashed 0 · frame.children)).addFlattened

/-- **The state of a builder with a limit** that has taken in what the builder
`b`, which has none, has taken in. -/
def squash (limit : Nat) (b : Builder) : Builder :=
  squashFrames limit
    { root := putSquashed limit [] b.root, table := b.table, limit := some limit } b.opened

variable {limit : Nat} {base b c : Builder} {frames : List Frame} {kind : NodeKind}
variable {f g : List Node → List Node}

@[simp] theorem squashFrames_table :
    (squashFrames limit base frames).table = base.table := by
  induction frames with
  | nil => rfl
  | cons frame outer ih =>
    unfold squashFrames
    split <;> simpa [pushFrame, addFlattened] using ih

@[simp] theorem squashFrames_limit :
    (squashFrames limit base frames).limit = base.limit := by
  induction frames with
  | nil => rfl
  | cons frame outer ih =>
    unfold squashFrames
    split <;> simpa [pushFrame, addFlattened] using ih

theorem squashFrames_withTable (place : TablePlace) :
    squashFrames limit { base with table := place } frames =
      { squashFrames limit base frames with table := place } := by
  induction frames with
  | nil => rfl
  | cons frame outer ih =>
    unfold squashFrames
    rw [ih]
    split
    · rfl
    · exact congrArg addFlattened (updateChildren_withTable place)

/-- The limit's worth of elements is kept open, and the rest is flattened. -/
theorem squashFrames_counts (hbase : base.opened = []) (hflat : base.flattened = 0) :
    (squashFrames limit base frames).opened.length = min frames.length limit ∧
      (squashFrames limit base frames).flattened = frames.length - limit := by
  induction frames with
  | nil => simp [squashFrames, hbase, hflat]
  | cons frame outer ih =>
    unfold squashFrames
    split
    · simp only [pushFrame, List.length_cons]
      omega
    · simp only [addFlattened, updateChildren_opened_length, updateChildren_flattened,
        List.length_cons]
      omega

theorem squash_opened_length : (b.squash limit).opened.length = min b.opened.length limit :=
  (squashFrames_counts rfl rfl).1

theorem squash_flattened : (b.squash limit).flattened = b.opened.length - limit :=
  (squashFrames_counts rfl rfl).2

theorem squash_hasRoom : (b.squash limit).hasRoom = true ↔ b.opened.length < limit := by
  have hlimit : (b.squash limit).limit = some limit := squashFrames_limit
  simp only [hasRoom, hlimit, Option.all_some, decide_eq_true_eq, squash_opened_length]
  omega

theorem squash_pushFrame_of_lt {frame : Frame} (h : b.opened.length < limit) :
    (b.pushFrame frame).squash limit = (b.squash limit).pushFrame
      ⟨frame.kind, putSquashed (limit - (b.opened.length + 1)) [] frame.children⟩ := if_pos h

theorem squash_pushFrame_of_ge {frame : Frame} (h : ¬ b.opened.length < limit) :
    (b.pushFrame frame).squash limit =
      ((b.squash limit).updateChildren (putSquashed 0 · frame.children)).addFlattened := if_neg h

/-! ## The four changes commute with squashing -/

/-- A change to the innermost children commutes with squashing, if it does so for
a single row. -/
theorem squash_updateChildren
    (h : ∀ onto row, putSquashed (limit - b.opened.length) onto (f row) =
      g (putSquashed (limit - b.opened.length) onto row)) :
    (b.updateChildren f).squash limit = (b.squash limit).updateChildren g := by
  rcases opened_eq_nil_or_pushFrame b with hnil | ⟨outer, frame, rfl⟩
  · obtain ⟨opened, root, table, flattened, bound⟩ := b
    obtain rfl : opened = [] := hnil
    have hroot := h [] root
    simp only [List.length_nil, Nat.sub_zero] at hroot
    simp only [updateChildren, squash, squashFrames, hroot]
  · simp only [pushFrame, List.length_cons] at h
    rw [updateChildren_pushFrame]
    by_cases hlt : outer.opened.length < limit
    · rw [squash_pushFrame_of_lt hlt, squash_pushFrame_of_lt hlt, updateChildren_pushFrame, h]
    · -- the children go to the deepest element that is kept
      have hroom : limit - (outer.opened.length + 1) = 0 := by omega
      rw [squash_pushFrame_of_ge hlt, squash_pushFrame_of_ge hlt, updateChildren_addFlattened,
        updateChildren_updateChildren]
      simp only [hroom] at h
      simp only [h, Function.comp_def]

theorem squash_put (hkind : kind.isLeaf = true) :
    (b.put kind).squash limit = (b.squash limit).put kind :=
  squash_updateChildren fun _ _ => Node.putSquashed_putNode hkind

theorem squash_openElement (hlimit : b.limit = none) :
    (b.openElement kind).squash limit = (b.squash limit).openElement kind := by
  have hroom : b.hasRoom = true := by rw [hasRoom, hlimit]; rfl
  rw [openElement_of_hasRoom hroom]
  by_cases h : b.opened.length < limit
  · rw [openElement_of_hasRoom (squash_hasRoom.mpr h), squash_pushFrame_of_lt h]
    rfl
  · rw [openElement_of_not_hasRoom (mt squash_hasRoom.mp h), squash_pushFrame_of_ge h]
    exact congrArg addFlattened updateChildren_id

theorem squash_closeElement (hflat : b.flattened = 0) (hs : b.Shaped) :
    b.closeElement.squash limit = (b.squash limit).closeElement := by
  rcases opened_eq_nil_or_pushFrame b with hnil | ⟨outer, frame, rfl⟩
  · have hsquash : (b.squash limit).opened = [] ∧ (b.squash limit).flattened = 0 := by
      constructor
      · exact List.eq_nil_of_length_eq_zero (by rw [squash_opened_length, hnil]; simp)
      · rw [squash_flattened, hnil]; simp
    rw [closeElement_of_depth_zero hnil hflat,
      closeElement_of_depth_zero hsquash.1 hsquash.2]
  · have hkind : frame.kind.isLeaf = false := hs.kinds frame (by simp [pushFrame])
    rw [closeElement_pushFrame (b := outer) hflat]
    by_cases hlt : outer.opened.length < limit
    · -- both builders close the same element
      have hroom : limit - outer.opened.length = limit - (outer.opened.length + 1) + 1 := by omega
      rw [squash_pushFrame_of_lt hlt, closeElement_pushFrame (by rw [squash_flattened]; omega)]
      refine squash_updateChildren fun onto row => ?_
      rw [hroom, Node.putSquashed_succ_cons _ hkind]
    · -- the one with the limit only counts, as its element was flattened
      have hroom : limit - outer.opened.length = 0 := by omega
      rw [squash_pushFrame_of_ge hlt, closeElement_addFlattened]
      refine squash_updateChildren fun onto row => ?_
      rw [hroom, Node.putSquashed_zero_cons hkind]

/-! ## The simulation -/

/-- The builder `c` has a limit, `b` has none, and they have taken in the same. -/
structure Squashes (limit : Nat) (b c : Builder) : Prop where
  eq_squash : c = b.squash limit
  limit_eq : b.limit = none
  flattened_eq : b.flattened = 0
  shaped : b.Shaped

theorem Squashes.init (limit : Nat) : Squashes limit { limit := none } { limit := some limit } :=
  ⟨rfl, rfl, rfl, Shaped.init none⟩

theorem Squashes.table_eq (h : Squashes limit b c) : b.table = c.table := by
  rw [h.eq_squash, squash, squashFrames_table]

theorem Squashes.closeElement (h : Squashes limit b c) :
    Squashes limit b.closeElement c.closeElement := by
  obtain ⟨rfl, hlimit, hflat, hs⟩ := h
  refine ⟨(squash_closeElement hflat hs).symm, ?_, ?_, hs.closeElement⟩
  · rw [closeElement_limit, hlimit]
  · rw [closeElement_flattened, hflat]

/-- **Every event keeps the two builders together.** -/
theorem Squashes.push (h : Squashes limit b c) (event : Event) :
    Squashes limit (b.push event) (c.push event) := by
  refine push_rel ?_ ?_ (fun h => h.closeElement) ?_ h h.table_eq event
  · rintro b c place ⟨rfl, hlimit, hflat, hs⟩
    exact ⟨(squashFrames_withTable place).symm, hlimit, hflat, hs.withTable place⟩
  · rintro b c kind hkind ⟨rfl, hlimit, hflat, hs⟩
    have hroom : b.hasRoom = true := by rw [hasRoom, hlimit]; rfl
    refine ⟨(squash_openElement hlimit).symm, ?_, ?_, hs.openElement hkind⟩
    · rw [openElement_of_hasRoom hroom]; exact hlimit
    · rw [openElement_of_hasRoom hroom]; exact hflat
  · rintro b c kind hkind ⟨rfl, hlimit, hflat, hs⟩
    exact ⟨(squash_put hkind).symm, by simp [put, hlimit], by simp [put, hflat], hs.put⟩

theorem Squashes.foldl (h : Squashes limit b c) (events : List Event) :
    Squashes limit (events.foldl Builder.push b) (events.foldl Builder.push c) := by
  induction events generalizing b c with
  | nil => exact h
  | cons event rest ih => exact ih (h.push event)

/-- As many elements are open with the limit as without. -/
theorem Squashes.depth_eq (h : Squashes limit b c) : c.depth = b.depth := by
  rw [h.eq_squash, depth, depth, squash_opened_length, squash_flattened, h.flattened_eq]
  omega

theorem Squashes.closeElements (h : Squashes limit b c) (n : Nat) :
    Squashes limit (closeElements n b) (closeElements n c) := by
  induction n generalizing b c with
  | zero => exact h
  | succ n ih => exact ih h.closeElement

/-- **The tree with the limit is the tree without, flattened.** -/
theorem Squashes.finish_eq (h : Squashes limit b c) : c.finish = b.finish.flattenBelow limit := by
  have hopened := closeElements_depth_opened b
  have hclosed := (h.closeElements b.depth).eq_squash
  rw [finish, finish, h.depth_eq, hclosed, squash, hopened, squashFrames, Node.flattenBelow,
    Node.mergeRow_eq_foldl]
  rfl

end Builder

/-- **The limit to nesting is a pure flattening.** Whatever the stream, the tree
that is built is the tree built without a limit, with every element below
`maxDepth` replaced by its children in place and the neighbouring texts and raw
HTML merged. -/
theorem Node.ofEvents_eq_flattenBelow (events : List Event) :
    ofEvents events = (ofEventsWithin none events).flattenBelow maxDepth :=
  ((Builder.Squashes.init maxDepth).foldl events).finish_eq

end MarkView
