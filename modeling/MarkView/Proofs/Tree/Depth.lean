import MarkView.Proofs.Tree.Operations
/-!
# Depth

How many elements are open, the flattened ones included, can be read off the
stream alone: `Event.depthAfter` counts it, and `push_depth` says that the count
is right. `Within` is the invariant of a builder with a limit: what is open
beyond the limit, and nothing else, is flattened. So there is room for one more
element just while the depth is below the limit (`hasRoom_iff`).
-/

namespace MarkView

namespace Event

/-- How many elements are open after an event, where `depth` were before it. A
stop where nothing is open does not count. -/
def depthAfter (depth : Nat) : Event → Nat
  | .start tag => if tag.name.isTransparent then depth else depth + 1
  | .stop name => if name.isTransparent then depth else depth - 1
  | _ => depth

/-- The table place after an event. -/
def placeAfter (place : TablePlace) : Event → TablePlace
  | .start tag => place.enter tag
  | .stop name => place.leave name
  | _ => place

end Event

theorem TablePlace.enter_of_isTransparent {place : TablePlace} {tag : Tag}
    (h : tag.name.isTransparent = true) : place.enter tag = place := by
  cases tag <;> first | rfl | simp [Tag.name, TagName.isTransparent] at h

theorem TablePlace.leave_of_isTransparent {place : TablePlace} {name : TagName}
    (h : name.isTransparent = true) : place.leave name = place := by
  cases name <;> first | rfl | simp [TagName.isTransparent] at h

namespace Builder

variable {b : Builder} {kind : NodeKind} {node : Node} {f : List Node → List Node}
variable {content : String} {n : Nat}

/-! ## The table place -/

@[simp] theorem openElement_table : (b.openElement kind).table = b.table := by
  unfold openElement; split <;> rfl

@[simp] theorem append_table : (b.append node).table = b.table := updateChildren_table

@[simp] theorem addText_table : (b.addText content).table = b.table := updateChildren_table

@[simp] theorem addHtml_table : (b.addHtml content).table = b.table := updateChildren_table

@[simp] theorem closeElement_table : b.closeElement.table = b.table := by
  unfold closeElement
  split
  · rfl
  · split <;> simp

/-- The table place depends on the stream alone. -/
theorem push_table (b : Builder) (event : Event) :
    (b.push event).table = event.placeAfter b.table := by
  cases event with
  | start tag =>
    simp only [push, start, Event.placeAfter]
    cases h : tag.kind? b.table with
    | none => exact (TablePlace.enter_of_isTransparent (Tag.kind?_eq_none_iff.mp h)).symm
    | some kind => simp
  | stop name =>
    simp only [push, stop, Event.placeAfter]
    split
    · next h => exact (TablePlace.leave_of_isTransparent h).symm
    · simp
  | _ => simp [push, Event.placeAfter]

/-! ## The depth -/

@[simp] theorem updateChildren_depth : (b.updateChildren f).depth = b.depth := by
  simp [depth]

@[simp] theorem append_depth : (b.append node).depth = b.depth := updateChildren_depth

@[simp] theorem addText_depth : (b.addText content).depth = b.depth := updateChildren_depth

@[simp] theorem addHtml_depth : (b.addHtml content).depth = b.depth := updateChildren_depth

@[simp] theorem openElement_depth : (b.openElement kind).depth = b.depth + 1 := by
  unfold openElement
  split <;> simp only [depth, List.length_cons] <;> omega

@[simp] theorem closeElement_depth : b.closeElement.depth = b.depth - 1 := by
  unfold closeElement
  split
  · simp only [depth]; omega
  · split
    · next h0 hnil => simp only [depth, hnil, List.length_nil]; omega
    · next h0 frame outer hcons =>
      simp only [append_depth]
      simp only [depth, hcons, List.length_cons]; omega

/-- Where nothing is open nothing closes. -/
theorem closeElement_of_depth_zero (hopened : b.opened = []) (hflat : b.flattened = 0) :
    b.closeElement = b := by
  simp [closeElement, hopened, hflat]

@[simp] theorem closeElement_limit : b.closeElement.limit = b.limit := by
  unfold closeElement
  split
  · rfl
  · split <;> simp [append]

@[simp] theorem closeElement_flattened : b.closeElement.flattened = b.flattened - 1 := by
  unfold closeElement
  split
  · rfl
  · split
    · omega
    · simp only [append, updateChildren_flattened]
      omega

/-- **The depth depends on the stream alone.** -/
theorem push_depth (b : Builder) (event : Event) :
    (b.push event).depth = event.depthAfter b.depth := by
  cases event with
  | start tag =>
    simp only [push, start, Event.depthAfter]
    cases h : tag.kind? b.table with
    | none => simp [Tag.kind?_eq_none_iff.mp h]
    | some kind =>
      rw [Tag.isTransparent_of_kind? h, if_neg Bool.false_ne_true]
      exact openElement_depth
  | stop name =>
    simp only [push, stop, Event.depthAfter]
    split
    · rfl
    · exact closeElement_depth
  | _ => simp [push, Event.depthAfter]

theorem foldl_push_depth (b : Builder) (events : List Event) :
    (events.foldl push b).depth = events.foldl Event.depthAfter b.depth := by
  induction events generalizing b with
  | nil => rfl
  | cons event rest ih => rw [List.foldl_cons, ih, push_depth, List.foldl_cons]

@[simp] theorem closeElements_depth (n : Nat) : (closeElements n b).depth = b.depth - n := by
  induction n generalizing b with
  | zero => rfl
  | succ n ih => rw [closeElements, ih, closeElement_depth]; omega

/-- Closing as many elements as are open leaves none open. -/
theorem closeElements_depth_opened (b : Builder) : (closeElements b.depth b).opened = [] := by
  have hd : (closeElements b.depth b).depth = 0 := by simp
  exact List.eq_nil_of_length_eq_zero (Nat.eq_zero_of_add_eq_zero_right hd)

/-- What closes before the end is closed there otherwise. -/
theorem finish_closeElement (b : Builder) : b.closeElement.finish = b.finish := by
  cases hdepth : b.depth with
  | zero =>
    obtain ⟨hopened, hflat⟩ := Nat.add_eq_zero_iff.mp hdepth
    rw [closeElement_of_depth_zero (List.eq_nil_of_length_eq_zero hopened) hflat]
  | succ n => rw [finish, finish, closeElement_depth, hdepth, closeElements, Nat.add_sub_cancel]

/-! ## The limit -/

/-- The invariant of a builder with a limit: no more elements are kept open, and
what is flattened was opened where the nesting was full. -/
structure Within (n : Nat) (b : Builder) : Prop where
  limit_eq : b.limit = some n
  opened_le : b.opened.length ≤ n
  full : 0 < b.flattened → b.opened.length = n

theorem Within.init (n : Nat) : Within n { limit := some n } :=
  ⟨rfl, Nat.zero_le n, fun h => absurd h (Nat.lt_irrefl 0)⟩

/-- There is room for an element just while fewer are open than are kept. -/
theorem Within.hasRoom_iff (h : Within n b) : b.hasRoom = true ↔ b.depth < n := by
  have hle := h.opened_le
  have hfull := h.full
  simp only [hasRoom, h.limit_eq, Option.all_some, decide_eq_true_eq, depth]
  omega

/-- As many elements are kept as are open, up to the limit. -/
theorem Within.opened_length (h : Within n b) : b.opened.length = min b.depth n := by
  have hle := h.opened_le
  have hfull := h.full
  simp only [depth]
  omega

/-- And what is open beyond them is flattened. -/
theorem Within.flattened_eq (h : Within n b) : b.flattened = b.depth - min b.depth n := by
  rw [← h.opened_length, depth]
  omega

theorem Within.withTable (h : Within n b) (place : TablePlace) :
    Within n { b with table := place } := ⟨h.limit_eq, h.opened_le, h.full⟩

theorem Within.updateChildren (h : Within n b) : Within n (b.updateChildren f) :=
  ⟨by simp [h.limit_eq], by simp [h.opened_le], by simpa using h.full⟩

theorem Within.openElement (h : Within n b) : Within n (b.openElement kind) := by
  have hle := h.opened_le
  have hfull := h.full
  unfold Builder.openElement
  split
  · next hroom =>
    have hlt : b.opened.length < n := by simpa [hasRoom, h.limit_eq] using hroom
    exact ⟨h.limit_eq, hlt, fun hf => by have := hfull hf; omega⟩
  · next hroom =>
    have hge : n ≤ b.opened.length := by simpa [hasRoom, h.limit_eq] using hroom
    exact ⟨h.limit_eq, hle, fun _ => Nat.le_antisymm hle hge⟩

theorem Within.closeElement (h : Within n b) : Within n b.closeElement := by
  have hle := h.opened_le
  unfold Builder.closeElement
  split
  · next hf => exact ⟨h.limit_eq, hle, fun _ => h.full hf⟩
  · next hf =>
    split
    · exact h
    · next frame outer hcons =>
      simp only [hcons, List.length_cons] at hle
      exact Within.updateChildren ⟨h.limit_eq, by simp only; omega, fun hpos => absurd hpos hf⟩

theorem Within.closeElements (h : Within n b) (m : Nat) : Within n (closeElements m b) := by
  induction m generalizing b with
  | zero => exact h
  | succ m ih => exact ih h.closeElement

/-- **Every event keeps a builder within its limit.** -/
theorem Within.push (h : Within n b) (event : Event) : Within n (b.push event) :=
  push_induction (fun place h => h.withTable place) (fun _ h => h.openElement)
    (fun h => h.closeElement) (fun _ h => h.updateChildren) h event

/-- And so does a whole stream. -/
theorem Within.foldl (h : Within n b) (events : List Event) :
    Within n (events.foldl Builder.push b) := by
  induction events generalizing b with
  | nil => exact h
  | cons event rest ih => exact ih (h.push event)

end Builder

end MarkView
