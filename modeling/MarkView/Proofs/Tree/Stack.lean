import MarkView.Proofs.Tree.Depth
import Mathlib.Logic.Function.Iterate
/-!
# The stack under a builder

A builder keeps the children of the document apart from the open elements. Here the document is a
frame like the others, at the bottom of one stack, and what can be done is decided by the length of
that stack: one more element is kept while no more than `maxDepth` frames are on it, and the end of
a stream closes elements while there is more than one. Nothing in the type says that there is a
bottom, nor that the loop at the end comes to an end: to close a flattened element leaves the stack
as long as it was.

The loop ends since length and flattened elements together get fewer (`size_closeElement_lt`), for
every stack whatsoever. How many times it closes is a matter of the run: the stack is that of the
builder after every event (`stack_push`), so its length and what is flattened can be read off the
depth, and as many elements are closed as are open (`finish_closes_depth`).
-/

namespace MarkView

/-- A builder as one stack of frames, the innermost first. -/
structure FrameStack where
  frames : List Frame := [⟨.document, []⟩]
  table : TablePlace := {}
  flattened : Nat := 0

namespace FrameStack

/-- Change the children of the frame on top, if there is one. -/
def updateTop (s : FrameStack) (f : List Node → List Node) : FrameStack :=
  match s.frames with
  | [] => s
  | top :: below => { s with frames := { top with children := f top.children } :: below }

/-- Put a leaf at the end of the children on top. -/
def put (s : FrameStack) (kind : NodeKind) : FrameStack :=
  s.updateTop (Node.putNode · (.leaf kind))

/-- Open an element, or count it as flattened when the stack is full. The bottom does not count as
an element. -/
def openElement (s : FrameStack) (kind : NodeKind) : FrameStack :=
  if s.frames.length > maxDepth then { s with flattened := s.flattened + 1 }
  else { s with frames := ⟨kind, []⟩ :: s.frames }

/-- Close the innermost element, if there is one. The bottom is never closed. -/
def closeElement (s : FrameStack) : FrameStack :=
  if s.flattened > 0 then { s with flattened := s.flattened - 1 }
  else if s.frames.length < 2 then s
  else
    match s.frames with
    | [] => s
    | top :: below =>
      { s with frames := below }.updateTop (⟨top.kind, top.children.reverse⟩ :: ·)

/-- Take one event. -/
def push (s : FrameStack) : Event → FrameStack
  | .start tag =>
    match tag.kind? s.table with
    | some kind => { s with table := s.table.enter tag }.openElement kind
    | none => s
  | .stop name =>
    if name.isTransparent then s else { s with table := s.table.leave name }.closeElement
  | .code content => ((s.openElement (.code .inline none)).put (.text content)).closeElement
  | event =>
    match event.leaf? with
    | some kind => s.put kind
    | none => s

/-! ## The loop at the end -/

/-- The frames and the flattened elements together. -/
def size (s : FrameStack) : Nat := s.frames.length + s.flattened

@[simp] theorem updateTop_length (s : FrameStack) (f : List Node → List Node) :
    (s.updateTop f).frames.length = s.frames.length := by
  unfold updateTop
  split <;> simp_all

@[simp] theorem updateTop_flattened (s : FrameStack) (f : List Node → List Node) :
    (s.updateTop f).flattened = s.flattened := by
  unfold updateTop
  split <;> rfl

/-- **Closing makes a stack smaller** as long as there is more on it than its bottom: either there
is one flattened element less or one frame. -/
theorem size_closeElement_lt {s : FrameStack} (h : 1 < s.frames.length) :
    s.closeElement.size < s.size := by
  unfold closeElement
  split
  · show s.frames.length + (s.flattened - 1) < s.frames.length + s.flattened
    omega
  · rw [if_neg (by omega)]
    split
    · next hnil => simp [hnil] at h
    · next top below hcons =>
      simp only [size, updateTop_length, updateTop_flattened, hcons, List.length_cons]
      omega

/-- Close elements while there is more on the stack than its bottom. -/
def closeAll (s : FrameStack) : FrameStack :=
  if 1 < s.frames.length then s.closeElement.closeAll else s
termination_by s.size
decreasing_by exact size_closeElement_lt ‹_›

/-- Close what is still open and return what is then on top. With nothing on the stack that is the
empty document. -/
def finish (s : FrameStack) : Node :=
  match s.closeAll.frames with
  | root :: _ => ⟨root.kind, root.children.reverse⟩
  | [] => Node.empty

/-- **The loop closes as often as its test holds.** -/
theorem closeAll_eq_iterate {s : FrameStack} {n : Nat}
    (h : ∀ closes, 1 < (closeElement^[closes] s).frames.length ↔ closes < n) :
    s.closeAll = closeElement^[n] s := by
  induction n generalizing s with
  | zero =>
    have hstop : ¬ 1 < s.frames.length := fun hopen => absurd ((h 0).mp hopen) (Nat.lt_irrefl 0)
    rw [closeAll, if_neg hstop]
    rfl
  | succ n ih =>
    have hopen : 1 < s.frames.length := (h 0).mpr (Nat.succ_pos n)
    rw [closeAll, if_pos hopen, Function.iterate_succ_apply]
    refine ih fun closes => ?_
    have hnext := h (closes + 1)
    rw [Function.iterate_succ_apply] at hnext
    rw [hnext]
    omega

end FrameStack

/-! ## The stack of a builder -/

namespace Builder

variable {b : Builder}

/-- The open elements and the document as one stack. -/
def stack (b : Builder) : FrameStack :=
  ⟨b.opened ++ [⟨.document, b.root⟩], b.table, b.flattened⟩

@[simp] theorem stack_length : b.stack.frames.length = b.opened.length + 1 := by
  simp [stack]

theorem stack_updateChildren (b : Builder) (f : List Node → List Node) :
    (b.updateChildren f).stack = b.stack.updateTop f := by
  obtain ⟨opened, root, table, flattened, limit⟩ := b
  cases opened <;> rfl

/-- The nesting is full just when the stack is. -/
theorem stack_openElement (h : Within maxDepth b) (kind : NodeKind) :
    (b.openElement kind).stack = b.stack.openElement kind := by
  have hroom : b.hasRoom = true ↔ b.opened.length < maxDepth := by
    simp [hasRoom, h.limit_eq]
  unfold openElement FrameStack.openElement
  rw [stack_length]
  by_cases hlt : b.opened.length < maxDepth
  · rw [if_pos (hroom.mpr hlt), if_neg (by omega)]
    rfl
  · rw [if_neg (fun hr => hlt (hroom.mp hr)), if_pos (by omega)]
    rfl

/-- No element is open just when the stack has nothing but its bottom. -/
theorem stack_closeElement (b : Builder) : b.closeElement.stack = b.stack.closeElement := by
  unfold closeElement FrameStack.closeElement
  have hflattened : b.stack.flattened = b.flattened := rfl
  rw [hflattened, stack_length]
  split
  · rfl
  · cases hopened : b.opened with
    | nil => exact (if_pos (by simp)).symm
    | cons frame outer =>
      rw [if_neg (by simp)]
      simp only [stack, hopened, List.cons_append]
      exact stack_updateChildren _ _

/-- **The stack of a builder takes every event as the builder does.** -/
theorem stack_push (h : Within maxDepth b) (event : Event) :
    (b.push event).stack = b.stack.push event := by
  have hput : ∀ (b : Builder) kind, (b.put kind).stack = b.stack.put kind :=
    fun b kind => stack_updateChildren b _
  cases event with
  | start tag =>
    simp only [push, start, FrameStack.push]
    have htable : b.stack.table = b.table := rfl
    rw [htable]
    cases tag.kind? b.table with
    | none => rfl
    | some kind => exact stack_openElement (h.withTable _) kind
  | stop name =>
    simp only [push, stop, FrameStack.push]
    split
    · rfl
    · exact stack_closeElement _
  | code content =>
    -- it opens and closes at once; where the stack is full it is counted as flattened in between
    rw [push, addText_eq, FrameStack.push, stack_closeElement, hput, stack_openElement h]
  | _ =>
    rw [push_of_leaf? rfl, hput]
    rfl

/-- And so it takes a whole stream. -/
theorem stack_foldl (h : Within maxDepth b) (events : List Event) :
    (events.foldl push b).stack = events.foldl FrameStack.push b.stack := by
  induction events generalizing b with
  | nil => rfl
  | cons event rest ih =>
    rw [List.foldl_cons, List.foldl_cons, ← stack_push h]
    exact ih (h.push event)

theorem stack_closeElements (n : Nat) (b : Builder) :
    (closeElements n b).stack = FrameStack.closeElement^[n] b.stack := by
  induction n generalizing b with
  | zero => rfl
  | succ n ih => rw [closeElements, ih, stack_closeElement, Function.iterate_succ_apply]

/-- **The test of the loop can be read off the depth**: there is more on the stack than its bottom
just while an element is open, since nothing is flattened but on top of `maxDepth` others. -/
theorem one_lt_stack_length (h : Within maxDepth b) :
    1 < b.stack.frames.length ↔ 0 < b.depth := by
  have hlength := h.opened_length
  have hpos : 0 < maxDepth := by decide
  rw [stack_length]
  omega

/-- It holds until as many elements are closed as were open. -/
theorem one_lt_closed_length (h : Within maxDepth b) (closes : Nat) :
    1 < (FrameStack.closeElement^[closes] b.stack).frames.length ↔ closes < b.depth := by
  have hclosed := one_lt_stack_length (h.closeElements closes)
  rw [stack_closeElements, closeElements_depth] at hclosed
  rw [hclosed]
  omega

/-- **The loop at the end closes as many elements as are open.** -/
theorem closeAll_stack (h : Within maxDepth b) :
    b.stack.closeAll = (closeElements b.depth b).stack := by
  rw [FrameStack.closeAll_eq_iterate (one_lt_closed_length h), stack_closeElements]

/-- What it leaves is the document alone. -/
theorem closeAll_stack_frames (h : Within maxDepth b) :
    b.stack.closeAll.frames = [⟨.document, (closeElements b.depth b).root⟩] := by
  rw [closeAll_stack h, stack, closeElements_depth_opened, List.nil_append]

/-- **The stack of a builder becomes the tree of the builder.** -/
theorem finish_stack (h : Within maxDepth b) : b.stack.finish = b.finish := by
  rw [FrameStack.finish, closeAll_stack_frames h]
  rfl

end Builder

namespace FrameStack

/-- **As many elements are closed at the end as are open.** After any events, and so after every
prefix of a stream, let `depth` be the number of elements that are open. The stack is that of the
builder: it has the document at its bottom and on it as many frames as are kept, and all other
elements are flattened. To finish it closes elements just `depth` times, and every time the stack
and what is flattened get smaller together. Then the document alone is left, so that there is
something to return, and it is the tree of the stream. -/
theorem finish_closes_depth (events : List Event) :
    let stack := events.foldl push {}
    let depth := events.foldl Event.depthAfter 0
    stack = (events.foldl Builder.push {}).stack ∧
    stack.frames.length = 1 + min depth maxDepth ∧
    stack.flattened = depth - min depth maxDepth ∧
    stack.frames.getLast?.map Frame.kind = some .document ∧
    (∀ closes, 1 < (closeElement^[closes] stack).frames.length ↔ closes < depth) ∧
    (∀ closes < depth,
      (closeElement^[closes + 1] stack).size < (closeElement^[closes] stack).size) ∧
    stack.closeAll = closeElement^[depth] stack ∧
    ∃ children, stack.closeAll.frames = [⟨.document, children⟩] ∧
      stack.finish = ⟨.document, children.reverse⟩ ∧ stack.finish = Node.ofEvents events := by
  intro stack depth
  have hwithin : Builder.Within maxDepth (events.foldl Builder.push {}) :=
    (Builder.Within.init maxDepth).foldl events
  have hstack : stack = (events.foldl Builder.push {}).stack :=
    (Builder.stack_foldl (Builder.Within.init maxDepth) events).symm
  have hdepth : (events.foldl Builder.push {}).depth = depth :=
    Builder.foldl_push_depth _ events
  have hopen : ∀ closes,
      1 < (closeElement^[closes] stack).frames.length ↔ closes < depth := by
    intro closes
    rw [hstack, ← hdepth]
    exact Builder.one_lt_closed_length hwithin closes
  refine ⟨hstack, ?_, ?_, ?_, hopen, ?_, closeAll_eq_iterate hopen, ?_⟩
  · rw [hstack, Builder.stack_length, hwithin.opened_length, hdepth]
    omega
  · rw [hstack, ← hdepth]
    exact hwithin.flattened_eq
  · rw [hstack, Builder.stack, List.getLast?_concat]
    rfl
  · intro closes hlt
    rw [Function.iterate_succ_apply']
    exact size_closeElement_lt ((hopen closes).mpr hlt)
  · rw [hstack]
    have hframes := Builder.closeAll_stack_frames hwithin
    refine ⟨_, hframes, ?_, Builder.finish_stack hwithin⟩
    rw [finish, hframes]

end FrameStack

end MarkView
