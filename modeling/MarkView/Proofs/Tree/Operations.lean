import MarkView.Proofs.Tree.Row
import MarkView.Tree.Builder
/-!
# What the operations of a builder change

Whatever the stream, a builder changes in four ways only: its table place is
set, an element is opened, an element is closed, a leaf is put at the end of the
innermost children (`put`). `push_rel` says so once, for two builders that take
the same event, and `push_induction` for one builder; every invariant and every
simulation is four cases from there.
-/

namespace MarkView

/-- A tag opens nothing just when it is transparent. -/
theorem Tag.kind?_eq_none_iff {place : TablePlace} {tag : Tag} :
    tag.kind? place = none ↔ tag.name.isTransparent = true := by
  cases tag with
  | list start => cases start <;> simp [kind?, name, TagName.isTransparent]
  | _ => simp [kind?, name, TagName.isTransparent]

/-- What opens something is not transparent. -/
theorem Tag.isTransparent_of_kind? {place : TablePlace} {tag : Tag} {kind : NodeKind}
    (h : tag.kind? place = some kind) : tag.name.isTransparent = false := by
  cases ht : tag.name.isTransparent with
  | false => rfl
  | true =>
    rw [kind?_eq_none_iff.mpr ht] at h
    cases h

/-- What a tag opens is an element. -/
theorem Tag.isLeaf_of_kind? {place : TablePlace} {tag : Tag} {kind : NodeKind}
    (h : tag.kind? place = some kind) : kind.isLeaf = false := by
  unfold kind? at h
  split at h <;> cases h <;> rfl

/-- The leaf that an event is, if it neither opens nor closes anything. -/
def Event.leaf? : Event → Option NodeKind
  | .text content => some (.text content)
  | .html content => some (.html content)
  | .inlineHtml content => some (.html content)
  | .inlineMath content => some (.text ("$" ++ content ++ "$"))
  | .displayMath content => some (.text ("$$" ++ content ++ "$$"))
  | .footnoteReference label => some (.footnoteReference label)
  | .softBreak => some .softBreak
  | .hardBreak => some .hardBreak
  | .rule => some .thematicBreak
  | .taskListMarker checked => some (.taskListMarker checked)
  | .start _ | .stop _ | .code _ => none

namespace Builder

variable {b b' : Builder} {kind : NodeKind} {f g : List Node → List Node}

/-! ## Changing the innermost children -/

@[simp] theorem updateChildren_table : (b.updateChildren f).table = b.table := by
  unfold updateChildren; split <;> rfl

@[simp] theorem updateChildren_limit : (b.updateChildren f).limit = b.limit := by
  unfold updateChildren; split <;> rfl

@[simp] theorem updateChildren_flattened :
    (b.updateChildren f).flattened = b.flattened := by
  unfold updateChildren; split <;> rfl

@[simp] theorem updateChildren_opened_length :
    (b.updateChildren f).opened.length = b.opened.length := by
  unfold updateChildren; split <;> simp_all

@[simp] theorem updateChildren_updateChildren :
    (b.updateChildren f).updateChildren g = b.updateChildren (g ∘ f) := by
  obtain ⟨opened, root, table, flattened, limit⟩ := b
  cases opened <;> rfl

@[simp] theorem updateChildren_id : b.updateChildren id = b := by
  obtain ⟨opened, root, table, flattened, limit⟩ := b
  cases opened <;> rfl

/-- Put a leaf at the end of the innermost children. -/
def put (b : Builder) (kind : NodeKind) : Builder :=
  b.updateChildren (Node.putNode · (.leaf kind))

/-- **Text is put in as a leaf.** -/
theorem addText_eq (b : Builder) (content : String) :
    b.addText content = b.put (.text content) := by
  refine congrArg b.updateChildren (funext fun row => ?_)
  cases row with
  | nil => rfl
  | cons last earlier =>
    obtain ⟨kind, below⟩ := last
    cases kind <;> rfl

/-- **And so is raw HTML.** -/
theorem addHtml_eq (b : Builder) (content : String) :
    b.addHtml content = b.put (.html content) := by
  refine congrArg b.updateChildren (funext fun row => ?_)
  cases row with
  | nil => rfl
  | cons last earlier =>
    obtain ⟨kind, below⟩ := last
    cases kind <;> rfl

/-- **And so is every other leaf**, which nothing merges with. -/
theorem append_leaf_eq (b : Builder) (h : ∀ last : Node, last.merge? (.leaf kind) = none) :
    b.append (.leaf kind) = b.put kind := by
  refine congrArg b.updateChildren (funext fun row => ?_)
  cases row with
  | nil => rfl
  | cons last earlier => exact (Node.putNode_of_merge?_none (h last)).symm

theorem push_of_leaf? {event : Event} (h : event.leaf? = some kind) :
    b.push event = b.put kind := by
  cases event with
  | start tag => cases h
  | stop name => cases h
  | code content => cases h
  | text content | inlineMath content | displayMath content => cases h; exact addText_eq b _
  | html content | inlineHtml content => cases h; exact addHtml_eq b _
  | _ =>
    -- neither text nor raw HTML, so nothing merges with it
    cases h
    refine append_leaf_eq b ?_
    rintro ⟨kind, below⟩
    cases kind <;> rfl

/-- A transparent element does nothing where it starts. -/
theorem push_start_of_isTransparent {tag : Tag} (h : tag.name.isTransparent = true) :
    b.push (.start tag) = b := by
  rw [push, start, Tag.kind?_eq_none_iff.mpr h]

/-- Nor does it where it stops. -/
theorem push_stop_of_isTransparent {name : TagName} (h : name.isTransparent = true) :
    b.push (.stop name) = b := by
  rw [push, stop, if_pos h]

/-! ## Frames and flattened elements -/

/-- Keep one more element open, with its children so far. -/
def pushFrame (b : Builder) (frame : Frame) : Builder := { b with opened := frame :: b.opened }

/-- Count one more element as flattened. -/
def addFlattened (b : Builder) : Builder := { b with flattened := b.flattened + 1 }

theorem openElement_of_hasRoom (h : b.hasRoom = true) :
    b.openElement kind = b.pushFrame ⟨kind, []⟩ := if_pos h

theorem openElement_of_not_hasRoom (h : ¬ b.hasRoom = true) :
    b.openElement kind = b.addFlattened := if_neg h

theorem updateChildren_pushFrame (frame : Frame) :
    (b.pushFrame frame).updateChildren f = b.pushFrame ⟨frame.kind, f frame.children⟩ := rfl

theorem updateChildren_addFlattened :
    b.addFlattened.updateChildren f = (b.updateChildren f).addFlattened := by
  obtain ⟨opened, root, table, flattened, limit⟩ := b
  cases opened <;> rfl

theorem updateChildren_withTable (place : TablePlace) :
    { b with table := place }.updateChildren f = { b.updateChildren f with table := place } := by
  obtain ⟨opened, root, table, flattened, limit⟩ := b
  cases opened <;> rfl

/-- A flattened element closes without a trace. -/
@[simp] theorem closeElement_addFlattened : b.addFlattened.closeElement = b :=
  if_pos (Nat.succ_pos b.flattened)

/-- A kept element goes into the one around it. -/
theorem closeElement_pushFrame (h : b.flattened = 0) (frame : Frame) :
    (b.pushFrame frame).closeElement = b.append ⟨frame.kind, frame.children.reverse⟩ := by
  have hf : ¬ (b.pushFrame frame).flattened > 0 := by
    simp only [pushFrame, h]
    omega
  rw [closeElement, if_neg hf]
  rfl

/-- Only the root of a builder is left, or there is an innermost frame. -/
theorem opened_eq_nil_or_pushFrame (b : Builder) :
    b.opened = [] ∨ ∃ (outer : Builder) (frame : Frame), b = outer.pushFrame frame := by
  obtain ⟨opened, root, table, flattened, limit⟩ := b
  cases opened with
  | nil => exact .inl rfl
  | cons frame outer => exact .inr ⟨⟨outer, root, table, flattened, limit⟩, frame, rfl⟩

/-! ## The four changes -/

/-- **What two builders have in common stays in common**, if each of the four
changes keeps it. -/
theorem push_rel {R : Builder → Builder → Prop}
    (htable : ∀ {b b'} place, R b b' → R { b with table := place } { b' with table := place })
    (hopen : ∀ {b b' kind}, kind.isLeaf = false → R b b' →
      R (b.openElement kind) (b'.openElement kind))
    (hclose : ∀ {b b'}, R b b' → R b.closeElement b'.closeElement)
    (hput : ∀ {b b' kind}, kind.isLeaf = true → R b b' → R (b.put kind) (b'.put kind))
    (h : R b b') (ht : b.table = b'.table) (event : Event) : R (b.push event) (b'.push event) := by
  cases event with
  | start tag =>
    simp only [push, start, ht]
    cases hk : tag.kind? b'.table with
    | none => exact h
    | some kind => exact hopen (Tag.isLeaf_of_kind? hk) (htable _ h)
  | stop name =>
    simp only [push, stop, ht]
    split
    · exact h
    · exact hclose (htable _ h)
  | code content =>
    -- inline code is an element that opens and closes at once
    simp only [push, addText_eq]
    exact hclose (hput rfl (hopen rfl h))
  | _ =>
    rw [push_of_leaf? rfl, push_of_leaf? rfl]
    exact hput rfl h

/-- **What one builder has it keeps**, if each of the four changes keeps it. -/
theorem push_induction {P : Builder → Prop}
    (htable : ∀ {b} place, P b → P { b with table := place })
    (hopen : ∀ {b kind}, kind.isLeaf = false → P b → P (b.openElement kind))
    (hclose : ∀ {b}, P b → P b.closeElement)
    (hput : ∀ {b kind}, kind.isLeaf = true → P b → P (b.put kind))
    (h : P b) (event : Event) : P (b.push event) := by
  have hrefl : b.table = b.table := rfl
  exact push_rel (R := fun b _ => P b) htable hopen hclose hput h hrefl event

end Builder

end MarkView
