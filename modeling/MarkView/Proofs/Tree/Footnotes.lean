import MarkView.Proofs.Tree.Contents
import MarkView.Proofs.Tree.Normal
/-!
# The footnotes of a built tree

Which footnotes a tree defines is known before it is built. A definition counts where it is opened
as an element that is kept, and neither in an image nor in code, since of these only the text is
shown; what is open at an event can be read off the stream (`Event.openAfter`). The definitions
that count are those of the tree, in the same order (`definitions_ofEvents`). A footnote reference
of the tree was one of the stream (`mem_of_footnoteReference`).
-/

namespace MarkView

/-- The label of the footnote that a kind defines. -/
def NodeKind.definition? : NodeKind → Option String
  | .footnoteDefinition label => some label
  | _ => none

theorem NodeKind.definition?_of_isLeaf {kind : NodeKind} (h : kind.isLeaf = true) :
    kind.definition? = none := by
  cases kind <;> first | rfl | cases h

theorem NodeKind.isOpaque_of_isLeaf {kind : NodeKind} (h : kind.isLeaf = true) :
    kind.isOpaque = false := by
  cases kind <;> first | rfl | cases h

namespace Node

variable {row : List Node} {kind : NodeKind}

mutual

/-- The footnotes that a tree defines, those within images and code left out. -/
def definitions : Node → List String
  | ⟨kind, children⟩ =>
    kind.definition?.toList ++ if kind.isOpaque then [] else definitionsAll children

/-- The footnotes that a row of trees defines. -/
def definitionsAll : List Node → List String
  | [] => []
  | node :: rest => node.definitions ++ definitionsAll rest

end

@[simp] theorem definitionsAll_append (xs ys : List Node) :
    definitionsAll (xs ++ ys) = definitionsAll xs ++ definitionsAll ys := by
  induction xs with
  | nil => rfl
  | cons node rest ih =>
    rw [List.cons_append, definitionsAll, definitionsAll, ih, List.append_assoc]

theorem mem_definitionsAll {label : String} :
    label ∈ definitionsAll row ↔ ∃ node ∈ row, label ∈ node.definitions := by
  induction row with
  | nil => simp [definitionsAll]
  | cons node rest ih => simp [definitionsAll, ih]

/-- A leaf defines nothing itself. -/
theorem definitions_of_isLeaf {node : Node} (h : node.kind.isLeaf = true) :
    node.definitions = definitionsAll node.children := by
  obtain ⟨kind, children⟩ := node
  simp [definitions, NodeKind.definition?_of_isLeaf h, NodeKind.isOpaque_of_isLeaf h]

/-- A leaf that is put into a row adds no definition. -/
theorem definitionsAll_putNode (h : kind.isLeaf = true) :
    definitionsAll (putNode row (leaf kind)).reverse = definitionsAll row.reverse := by
  have hleaf : (leaf kind).definitions = [] := definitions_of_isLeaf h
  cases row with
  | nil => simp [putNode, definitionsAll, hleaf]
  | cons last earlier =>
    cases hm : last.merge? (leaf kind) with
    | none =>
      rw [putNode_of_merge?_none hm]
      simp [definitionsAll, hleaf]
    | some both =>
      obtain ⟨hlast, hboth, hchildren⟩ := isLeaf_of_merge? hm
      rw [putNode_of_merge? hm]
      simp [definitionsAll, definitions_of_isLeaf hlast, definitions_of_isLeaf hboth, hchildren]

end Node

namespace Builder

variable {b : Builder} {kind : NodeKind}

/-! ## Half-built trees -/

/-- Whether a node is shown that lies within these elements. -/
def shows (frames : List Frame) : Bool := frames.all (!·.kind.isOpaque)

@[simp] theorem shows_nil : shows [] = true := rfl

@[simp] theorem shows_cons (frame : Frame) (outer : List Frame) :
    shows (frame :: outer) = (!frame.kind.isOpaque && shows outer) := rfl

/-- The footnotes that half-built elements define. -/
def framesDefinitions : List Frame → List String
  | [] => []
  | frame :: outer =>
    framesDefinitions outer ++
      if shows outer then Node.definitions ⟨frame.kind, frame.children.reverse⟩ else []

/-- The footnotes that a builder has taken in so far. -/
def definitions (b : Builder) : List String :=
  Node.definitionsAll b.root.reverse ++ framesDefinitions b.opened

theorem put_definitions (h : kind.isLeaf = true) : (b.put kind).definitions = b.definitions := by
  obtain ⟨opened, root, table, flattened, limit⟩ := b
  cases opened <;>
    simp [put, updateChildren, definitions, framesDefinitions, Node.definitions,
      Node.definitionsAll_putNode h]

theorem openElement_definitions : (b.openElement kind).definitions =
    b.definitions ++ if b.hasRoom && shows b.opened then kind.definition?.toList else [] := by
  unfold openElement
  by_cases hroom : b.hasRoom = true <;>
    simp [hroom, definitions, framesDefinitions, Node.definitions, Node.definitionsAll]

/-- **An element that closes moves its definitions into its parent.** -/
@[simp] theorem closeElement_definitions : b.closeElement.definitions = b.definitions := by
  obtain ⟨opened, root, table, flattened, limit⟩ := b
  unfold closeElement
  split
  · rfl
  · cases opened with
    | nil => rfl
    | cons frame outer =>
      -- the parent is the next frame, or the root
      cases outer with
      | nil =>
        simp [append, updateChildren, definitions, framesDefinitions, Node.definitionsAll]
      | cons parent others =>
        cases hothers : shows others <;> cases hparent : parent.kind.isOpaque <;>
          simp [append, updateChildren, definitions, framesDefinitions, Node.definitions,
            Node.definitionsAll, hothers, hparent]

@[simp] theorem closeElements_definitions (n : Nat) :
    (closeElements n b).definitions = b.definitions := by
  induction n generalizing b with
  | zero => rfl
  | succ n ih => rw [closeElements, ih, closeElement_definitions]

end Builder

/-! ## Reading a stream -/

namespace Tag

/-- Tags of elements of which only the text is shown. -/
def isOpaque : Tag → Bool
  | image _ _ | codeBlock _ => true
  | _ => false

/-- The label of the footnote that a tag defines. -/
def definition? : Tag → Option String
  | footnoteDefinition label => some label
  | _ => none

theorem isOpaque_of_kind? {place : TablePlace} {tag : Tag} {kind : NodeKind}
    (h : tag.kind? place = some kind) : kind.isOpaque = tag.isOpaque := by
  unfold kind? at h
  split at h <;> cases h <;> rfl

theorem definition?_of_kind? {place : TablePlace} {tag : Tag} {kind : NodeKind}
    (h : tag.kind? place = some kind) : kind.definition? = tag.definition? := by
  unfold kind? at h
  split at h <;> cases h <;> rfl

end Tag

namespace Event

/-- The tags that are open after an event, the innermost first, where `opened` were open before
it. A stop closes the innermost, whatever it names. -/
def openAfter (opened : List Tag) : Event → List Tag
  | .start tag => if tag.name.isTransparent then opened else tag :: opened
  | .stop name => if name.isTransparent then opened else opened.tail
  | _ => opened

/-- The footnote that an event defines, where `opened` are open: there must be room for one more
element, and no image and no code around it. -/
def definition? (limit : Nat) (opened : List Tag) : Event → Option String
  | .start tag =>
    if opened.length < limit ∧ ∀ outer ∈ opened, outer.isOpaque = false then tag.definition?
    else none
  | _ => none

/-- The footnotes that a stream defines. -/
def definitions (limit : Nat) (opened : List Tag) : List Event → List String
  | [] => []
  | event :: rest =>
    (event.definition? limit opened).toList ++ definitions limit (event.openAfter opened) rest

end Event

namespace Builder

variable {b : Builder} {kind : NodeKind} {limit : Nat} {opened : List Tag}
  {f : List Node → List Node}

/-- The tags that a stream has open are the elements of a builder, those that are flattened the
innermost. -/
structure Holds (opened : List Tag) (b : Builder) : Prop where
  depth : opened.length = b.depth
  kinds : b.opened.map (·.kind.isOpaque) = (opened.drop b.flattened).map Tag.isOpaque

theorem updateChildren_kinds :
    (b.updateChildren f).opened.map (·.kind.isOpaque) = b.opened.map (·.kind.isOpaque) := by
  obtain ⟨opened, root, table, flattened, limit⟩ := b
  cases opened <;> rfl

namespace Holds

theorem init (limit : Option Nat) : Holds [] { limit } := ⟨rfl, rfl⟩

theorem withTable (h : b.Holds opened) (place : TablePlace) :
    Holds opened { b with table := place } := ⟨h.depth, h.kinds⟩

theorem updateChildren (h : b.Holds opened) : (b.updateChildren f).Holds opened :=
  ⟨by simpa using h.depth, by simpa [updateChildren_kinds] using h.kinds⟩

theorem openElement (h : b.Holds opened) (hw : b.Within limit) {tag : Tag}
    (hkind : kind.isOpaque = tag.isOpaque) : (b.openElement kind).Holds (tag :: opened) := by
  have hdepth : (tag :: opened).length = (b.openElement kind).depth := by
    rw [openElement_depth, List.length_cons, h.depth]
  refine ⟨hdepth, ?_⟩
  by_cases hroom : b.hasRoom = true
  · have hkinds := h.kinds
    rw [hw.flattened_eq_zero hroom] at hkinds
    rw [openElement_of_hasRoom hroom]
    simpa [pushFrame, hw.flattened_eq_zero hroom, hkind] using hkinds
  · rw [openElement_of_not_hasRoom hroom]
    exact h.kinds

theorem closeElement (h : b.Holds opened) : b.closeElement.Holds opened.tail := by
  refine ⟨by rw [closeElement_depth, List.length_tail, h.depth], ?_⟩
  have hkinds := h.kinds
  rw [closeElement_flattened]
  by_cases hflat : b.flattened = 0
  · rcases opened_eq_nil_or_pushFrame b with hnil | ⟨outer, frame, rfl⟩
    · have hopened : opened = [] := by
        refine List.eq_nil_of_length_eq_zero ?_
        rw [h.depth, Builder.depth, hnil, hflat]
        rfl
      simp [closeElement_of_depth_zero hnil hflat, hnil, hopened]
    · rw [hflat, List.drop_zero] at hkinds
      rw [closeElement_pushFrame (b := outer) hflat, append, updateChildren_kinds, hflat,
        Nat.zero_sub, List.drop_zero, List.map_tail, ← hkinds]
      rfl
  · have hclose : b.closeElement = { b with flattened := b.flattened - 1 } :=
      if_pos (Nat.pos_of_ne_zero hflat)
    rw [hclose, List.drop_tail, Nat.sub_add_cancel (Nat.pos_of_ne_zero hflat)]
    exact hkinds

/-- **Every event opens and closes the same for the stream and for the builder.** -/
theorem push (h : b.Holds opened) (hw : b.Within limit) (event : Event) :
    (b.push event).Holds (event.openAfter opened) := by
  cases event with
  | start tag =>
    simp only [Builder.push, start, Event.openAfter]
    cases hk : tag.kind? b.table with
    | none =>
      rw [if_pos (Tag.kind?_eq_none_iff.mp hk)]
      exact h
    | some kind =>
      rw [Tag.isTransparent_of_kind? hk, if_neg Bool.false_ne_true]
      exact (h.withTable _).openElement (hw.withTable _) (Tag.isOpaque_of_kind? hk)
  | stop name =>
    simp only [Builder.push, stop, Event.openAfter]
    split
    · exact h
    · exact (h.withTable _).closeElement
  | code content =>
    by_cases hroom : b.hasRoom = true
    · rw [push_code_of_hasRoom hw hroom]
      exact h.updateChildren
    · rw [push_code_of_not_hasRoom hroom]
      exact h.updateChildren
  | _ =>
    rw [push_of_leaf? rfl]
    exact h.updateChildren

/-- There is room in a builder, and what is put there is shown, just where the stream says so. -/
theorem hasRoom_and_shows (h : b.Holds opened) (hw : b.Within limit) :
    (b.hasRoom && shows b.opened) = true ↔
      opened.length < limit ∧ ∀ tag ∈ opened, tag.isOpaque = false := by
  have hshows : shows b.opened = (b.opened.map (·.kind.isOpaque)).all (!·) := by
    simp [shows, Function.comp_def]
  rw [Bool.and_eq_true, hw.hasRoom_iff, ← h.depth]
  refine and_congr_right fun hlt => ?_
  have hflat : b.flattened = 0 := hw.flattened_eq_zero (hw.hasRoom_iff.mpr (h.depth ▸ hlt))
  rw [hshows, h.kinds, hflat]
  simp

end Holds

/-- **What one event defines** is what it defines for the stream. -/
theorem push_definitions (hw : b.Within limit) (h : b.Holds opened) (event : Event) :
    (b.push event).definitions = b.definitions ++ (event.definition? limit opened).toList := by
  have hplace := h.hasRoom_and_shows hw
  cases event with
  | start tag =>
    simp only [push, start, Event.definition?]
    cases hk : tag.kind? b.table with
    | none =>
      have hnone : tag.definition? = none := by
        cases tag <;> first | rfl | cases hk
      simp [hnone]
    | some kind =>
      rw [openElement_definitions, Tag.definition?_of_kind? hk]
      refine congrArg (b.definitions ++ ·) ?_
      by_cases hd : opened.length < limit ∧ ∀ tag ∈ opened, tag.isOpaque = false
      · rw [if_pos hd]
        exact if_pos (hplace.mpr hd)
      · rw [if_neg hd]
        exact if_neg (mt hplace.mp hd)
  | stop name =>
    simp only [push, stop, Event.definition?]
    split
    · exact (List.append_nil _).symm
    · rw [closeElement_definitions]
      exact (List.append_nil _).symm
  | code content =>
    have htext : (NodeKind.text content).isLeaf = true := rfl
    simp only [push, closeElement_definitions, addText_eq, put_definitions htext,
      openElement_definitions, Event.definition?]
    simp [NodeKind.definition?]
  | _ =>
    rw [push_of_leaf? rfl, put_definitions rfl]
    exact (List.append_nil _).symm

/-- **And so for a whole stream.** -/
theorem foldl_definitions (hw : b.Within limit) (h : b.Holds opened) (events : List Event) :
    (events.foldl push b).definitions = b.definitions ++ Event.definitions limit opened events := by
  induction events generalizing b opened with
  | nil => simp [Event.definitions]
  | cons event rest ih =>
    rw [List.foldl_cons, ih (hw.push event) (h.push hw event), push_definitions hw h,
      Event.definitions, List.append_assoc]

end Builder

/-- **A tree defines the footnotes that its stream defines.** -/
theorem Node.definitions_ofEvents (events : List Event) :
    (ofEvents events).definitions = Event.definitions maxDepth [] events := by
  have hclosed : ∀ b : Builder, b.finish.definitions = b.definitions := by
    intro b
    have hdefinitions := b.closeElements_definitions b.depth
    simpa [Builder.finish, definitions, Builder.definitions, NodeKind.definition?,
      NodeKind.isOpaque, Builder.closeElements_depth_opened, Builder.framesDefinitions]
      using hdefinitions
  rw [ofEvents, ofEventsWithin, hclosed,
    Builder.foldl_definitions (Builder.Within.init maxDepth) (Builder.Holds.init _)]
  rfl

/-! ## References -/

namespace Node

theorem mem_contentsAll {row : List Node} {content : Content} :
    content ∈ contentsAll row ↔ ∃ node ∈ row, content ∈ node.contents := by
  induction row with
  | nil => simp [contentsAll]
  | cons node rest ih => simp [contentsAll, ih]

/-- A walk over a tree meets each of its nodes. -/
theorem mem_contents {node tree : Node} {content : Content} (h : node ∈ tree.preorder)
    (hcontent : content ∈ node.kind.contents) : content ∈ tree.contents := by
  induction tree using Node.induction with
  | node kind children ih =>
    rw [preorder, List.mem_cons] at h
    rw [contents, List.mem_append]
    rcases h with rfl | h
    · exact .inl hcontent
    · obtain ⟨child, hchild, h⟩ := mem_preorderAll.mp h
      exact .inr (mem_contentsAll.mpr ⟨child, hchild, ih child hchild h⟩)

end Node

/-- What a stream is read to refer to is referred to by one of its events. -/
theorem Event.mem_of_mem_readAll {limit depth : Nat} {place : TablePlace} {label : String}
    {events : List Event}
    (h : .node (.footnoteReference label) ∈ Event.readAll limit place depth events) :
    .footnoteReference label ∈ events := by
  induction events generalizing place depth with
  | nil => cases h
  | cons event rest ih =>
    rw [Event.readAll, List.mem_append] at h
    rcases h with h | h
    · refine List.mem_cons.mpr (.inl ?_)
      cases event with
      | start tag =>
        -- no tag opens a leaf
        simp only [Event.contents] at h
        split at h
        · simp only [List.mem_map, Option.mem_toList, Content.node.injEq] at h
          obtain ⟨kind, hkind, rfl⟩ := h
          cases Tag.isLeaf_of_kind? hkind
        · cases h
      | code content =>
        simp only [Event.contents, List.mem_append] at h
        rcases h with h | h
        · split at h <;> simp at h
        · simp at h
      | _ => simp_all [Event.contents]
    · exact List.mem_cons_of_mem _ (ih h)

/-- **What a built tree refers to was referred to in its stream.** -/
theorem Node.mem_of_footnoteReference {events : List Event} {node : Node} {label : String}
    (h : node ∈ (ofEvents events).preorder) (hkind : node.kind = .footnoteReference label) :
    .footnoteReference label ∈ events := by
  have hread : contentsAll (ofEvents events).children = Event.readAll maxDepth {} 0 events := by
    rw [ofEvents, ofEventsWithin, Builder.contents_finish,
      Builder.foldl_contents (Builder.Within.init maxDepth) (Builder.Shaped.init _)]
    rfl
  have hnode : .node (.footnoteReference label) ∈ (ofEvents events).contents :=
    mem_contents h (by rw [hkind]; exact List.mem_singleton_self _)
  have hbelow : .node (.footnoteReference label) ∈ contentsAll (ofEvents events).children := by
    rcases List.mem_append.mp hnode with hroot | hbelow
    · cases List.mem_singleton.mp hroot
    · exact hbelow
  exact Event.mem_of_mem_readAll (hread ▸ hbelow)

end MarkView
