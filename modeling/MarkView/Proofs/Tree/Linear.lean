import MarkView.Proofs.Tree.Normal
/-!
# Trees written as events

A tree can be written down as a stream of events: an element as its start, its children and its
stop, inline code as one event, and every other leaf as the event that it is. `Node.events` does
so, for all kinds but those of tables. Building undoes it: a tree in normal form is built again
from its events, and since every built tree is in normal form, building what a built tree is
written as changes nothing (`ofEvents_events`).
-/

namespace MarkView

namespace NodeKind

/-- The event that a leaf is. -/
def event? : NodeKind → Option Event
  | text content => some (.text content)
  | html content => some (.html content)
  | softBreak => some .softBreak
  | hardBreak => some .hardBreak
  | thematicBreak => some .rule
  | taskListMarker checked => some (.taskListMarker checked)
  | footnoteReference label => some (.footnoteReference label)
  | _ => none

/-- The tag that opens an element. A code block without a language is written as an indented
one. -/
def tag? : NodeKind → Option Tag
  | paragraph => some .paragraph
  | heading level => some (.heading (.ofNat level))
  | unorderedList => some (.list none)
  | orderedList start => some (.list (some start))
  | listItem => some .item
  | link href title => some (.link href title)
  | blockQuote => some (.blockQuote none)
  | code .block language => some (.codeBlock language)
  | emphasis => some .emphasis
  | strong => some .strong
  | strikethrough => some .strikethrough
  | image src title => some (.image src title)
  | footnoteDefinition label => some (.footnoteDefinition label)
  | definitionList => some .definitionList
  | definitionListTitle => some .definitionListTitle
  | definitionListDefinition => some .definitionListDefinition
  | _ => none

/-- The kinds that events without tables make. -/
def Plain (kind : NodeKind) : Prop := kind.Proper ∧ kind.isTable = false

end NodeKind

/-- The names of the elements that tables are made of. -/
def TagName.isTable : TagName → Bool
  | table | tableHead | tableRow | tableCell => true
  | _ => false

/-- Events that open or close a part of a table. -/
def Event.isTable : Event → Bool
  | .start tag => tag.name.isTable
  | .stop name => name.isTable
  | _ => false

namespace Node

mutual

/-- **The events that a tree is written as.** The root, being a document, has none of its own. -/
def events : Node → List Event
  | ⟨kind, children⟩ =>
    match kind with
    | .code .inline _ => [.code (String.join (leafTexts children))]
    | kind =>
      match kind.event?, kind.tag? with
      | some event, _ => [event]
      | none, some tag => .start tag :: eventsAll children ++ [.stop tag.name]
      | none, none => eventsAll children

/-- The events that a row of trees is written as. -/
def eventsAll : List Node → List Event
  | [] => []
  | node :: rest => node.events ++ eventsAll rest

end

end Node

/-! ## Kinds and their events -/

section Kinds

variable {kind : NodeKind} {tag : Tag} {event : Event} {place : TablePlace}

theorem NodeKind.event?_of_isLeaf (h : kind.isLeaf = true) :
    ∃ event, kind.event? = some event := by
  cases kind <;> first | exact ⟨_, rfl⟩ | exact nomatch h

theorem NodeKind.event?_of_tag? (h : kind.tag? = some tag) : kind.event? = none := by
  cases kind <;> first | rfl | exact nomatch h

theorem NodeKind.leaf?_of_event? (h : kind.event? = some event) : event.leaf? = some kind := by
  cases kind <;> simp [event?] at h <;> subst h <;> rfl

theorem NodeKind.Proper.eq_of_isInlineCode (h : kind.Proper) (hcode : kind.isInlineCode = true) :
    kind = .code .inline none := by
  cases kind with
  | code display language =>
    cases display with
    | inline => exact congrArg (code .inline) h
    | block => exact nomatch hcode
  | _ => exact nomatch hcode

/-- A plain kind that is neither a leaf nor inline code has a tag, which opens it and keeps out
of tables. -/
theorem NodeKind.Plain.tag? (h : kind.Plain) (hleaf : kind.isLeaf = false)
    (hcode : kind.isInlineCode = false) (place : TablePlace) :
    ∃ tag, kind.tag? = some tag ∧ tag.kind? place = some kind ∧ tag.name.isTable = false ∧
      tag.name.isTransparent = false := by
  obtain ⟨hproper, htable⟩ := h
  cases kind with
  | document => exact hproper.elim
  | heading level =>
    have hlevel : (HeadingLevel.ofNat level).number = level :=
      HeadingLevel.number_ofNat hproper.1 hproper.2
    exact ⟨_, rfl, by rw [Tag.kind?, hlevel], rfl, rfl⟩
  | code display language =>
    cases display with
    | inline => cases hcode
    | block =>
      refine ⟨_, rfl, ?_, rfl, rfl⟩
      cases language with
      | none => rfl
      | some word => rw [Tag.kind?, codeLanguage_of_isWord (hproper word rfl)]
  | table | tableHead | tableRow | tableCell => cases htable
  | text | html | softBreak | hardBreak | thematicBreak | taskListMarker | footnoteReference =>
    cases hleaf
  | _ => exact ⟨_, rfl, rfl, rfl, rfl⟩

theorem TablePlace.enter_of_not_isTable (h : tag.name.isTable = false) :
    place.enter tag = place := by
  cases tag <;> first | rfl | exact nomatch h

theorem TablePlace.leave_of_not_isTable {name : TagName} (h : name.isTable = false) :
    place.leave name = place := by
  cases name <;> first | rfl | exact nomatch h

/-- What opens outside tables is plain. -/
theorem Tag.plain_of_kind? (h : tag.kind? place = some kind) (htag : tag.name.isTable = false) :
    kind.Plain := by
  refine ⟨Tag.proper_of_kind? h, ?_⟩
  unfold Tag.kind? at h
  split at h <;> cases h <;> first | rfl | exact nomatch htag

end Kinds

namespace Node

variable {kind : NodeKind} {children : List Node} {event : Event} {tag : Tag}

theorem events_of_event? (h : kind.event? = some event) : events ⟨kind, children⟩ = [event] := by
  cases kind <;> simp_all [events, NodeKind.event?]

theorem events_of_tag? (h : kind.tag? = some tag) :
    events ⟨kind, children⟩ = .start tag :: eventsAll children ++ [.stop tag.name] := by
  unfold events
  split
  · cases h
  · rw [h, NodeKind.event?_of_tag? h]

/-- Where no two neighbours merge, a row is merged as it is. -/
theorem Separate.mergeRow_eq {row : List Node} (h : Separate row) : mergeRow row = row := by
  induction row with
  | nil => rw [mergeRow]
  | cons first rest ih =>
    cases rest with
    | nil => rw [mergeRow]
    | cons second rest =>
      obtain ⟨hfirst, hrest⟩ := List.isChain_cons_cons.mp h
      rw [mergeRow, hfirst]
      exact congrArg (first :: ·) (ih hrest)

/-- **Such a row is what its nodes make**, put in one after the other. -/
theorem Separate.reverse_foldl_putNode {row : List Node} (h : Separate row) :
    (row.foldl putNode []).reverse = row := by
  rw [← mergeRow_eq_foldl, h.mergeRow_eq]

end Node

/-! ## Building what was written -/

namespace Builder

open Node (putNode nestingAll events eventsAll)

variable {b : Builder} {limit : Nat} {kind : NodeKind} {children row : List Node}

/-- Opening an element outside tables changes nothing else. -/
theorem push_start_of_hasRoom {tag : Tag} {kind : NodeKind} (hroom : b.hasRoom = true)
    (hkind : tag.kind? b.table = some kind) (htag : tag.name.isTable = false) :
    b.push (.start tag) = b.pushFrame ⟨kind, []⟩ := by
  simp only [push, start, hkind, TablePlace.enter_of_not_isTable htag]
  exact openElement_of_hasRoom hroom

theorem push_stop_of_not_isTable {name : TagName} (htag : name.isTable = false)
    (hname : name.isTransparent = false) : b.push (.stop name) = b.closeElement := by
  simp only [push, stop, hname, TablePlace.leave_of_not_isTable htag]
  rfl

/-- A tree is put in place by its events, where there is room for all its elements. -/
def Placed (limit : Nat) (node : Node) : Prop :=
  ∀ b : Builder, b.Within limit → b.depth + node.nesting ≤ limit →
    node.events.foldl push b = b.updateChildren (putNode · node)

/-- A row whose trees are put in place is put in place one tree after the other. -/
theorem foldl_push_eventsAll (hrow : ∀ node ∈ row, Placed limit node) (hwithin : b.Within limit)
    (hroom : b.depth + nestingAll row ≤ limit) :
    (eventsAll row).foldl push b = b.updateChildren fun earlier => row.foldl putNode earlier := by
  induction row generalizing b with
  | nil => exact updateChildren_id.symm
  | cons node rest ih =>
    obtain ⟨hnode, hrest⟩ := List.forall_mem_cons.mp hrow
    rw [nestingAll] at hroom
    have hplaced := hnode b hwithin (by omega)
    -- a tree that is in place has closed all it opened, so the rest has the same room
    have hroom' : (b.updateChildren (putNode · node)).depth + nestingAll rest ≤ limit := by
      rw [updateChildren_depth]
      omega
    rw [eventsAll, List.foldl_append, hplaced, ih hrest hwithin.updateChildren hroom',
      updateChildren_updateChildren]
    rfl

theorem placed_leaf (hleaf : kind.isLeaf = true) : Placed limit (.leaf kind) := by
  obtain ⟨event, hevent⟩ := NodeKind.event?_of_isLeaf hleaf
  intro b _ _
  rw [Node.leaf, Node.events_of_event? hevent]
  exact push_of_leaf? (NodeKind.leaf?_of_event? hevent)

theorem placed_code {content : String} :
    Placed limit ⟨.code .inline none, [.leaf (.text content)]⟩ := by
  intro b hwithin hroom
  have hjoin : String.join (Node.leafTexts [.leaf (.text content)]) = content := by
    simp [Node.leafTexts, Node.leafText, Node.leaf, NodeKind.literal?, String.join]
  have hfree : b.hasRoom = true := by
    rw [hwithin.hasRoom_iff]
    rw [Node.nesting, if_neg (by simp [NodeKind.isLeaf])] at hroom
    omega
  rw [events, hjoin]
  exact (push_code_of_hasRoom hwithin hfree).trans
    (congrArg b.updateChildren (funext fun _ => (Node.putNode_of_not_isLeaf rfl).symm))

/-- **An element is put in place** if its children are: its start opens a frame, the children go
there, and its stop closes the frame with the element. -/
theorem placed_element (hkind : kind.Plain) (hleaf : kind.isLeaf = false)
    (hcode : kind.isInlineCode = false) (hseparate : Node.Separate children)
    (hchildren : ∀ node ∈ children, Placed limit node) : Placed limit ⟨kind, children⟩ := by
  intro b hwithin hroom
  obtain ⟨tag, htag, hopen, htable, hname⟩ := hkind.tag? hleaf hcode b.table
  rw [Node.nesting, if_neg (by simp [hleaf])] at hroom
  have hfree : b.hasRoom = true := hwithin.hasRoom_iff.mpr (by omega)
  have hframe : b.openElement kind = b.pushFrame ⟨kind, []⟩ := openElement_of_hasRoom hfree
  -- the frame itself takes the room that the element has above its children
  have hdepth : (b.pushFrame ⟨kind, []⟩).depth + nestingAll children ≤ limit := by
    rw [← hframe, openElement_depth]
    omega
  rw [Node.events_of_tag? htag, List.cons_append, List.foldl_cons, List.foldl_append,
    push_start_of_hasRoom hfree hopen htable,
    foldl_push_eventsAll hchildren (hframe ▸ hwithin.openElement) hdepth,
    updateChildren_pushFrame, List.foldl_cons, List.foldl_nil,
    push_stop_of_not_isTable htable hname,
    closeElement_pushFrame (hwithin.flattened_eq_zero hfree), hseparate.reverse_foldl_putNode]
  exact congrArg b.updateChildren (funext fun _ => (Node.putNode_of_not_isLeaf hleaf).symm)

/-- **Every tree of sound nodes is put in place by its events.** -/
theorem placed_of_sound (node : Node) (h : ∀ n ∈ node.preorder, n.Sound NodeKind.Plain) :
    Placed limit node := by
  induction node using Node.induction with
  | node kind children ih =>
    rw [Node.preorder, List.forall_mem_cons] at h
    obtain ⟨hnode, hbelow⟩ := h
    have hchildren : ∀ child ∈ children, Placed limit child := fun child hchild =>
      ih child hchild fun n hn => hbelow n (Node.mem_preorderAll.mpr ⟨child, hchild, hn⟩)
    -- a leaf is one event, inline code another, and an element two with its children between
    cases hleaf : kind.isLeaf with
    | true =>
      obtain rfl : children = [] := hnode.bare hleaf
      exact placed_leaf hleaf
    | false =>
      cases hcode : kind.isInlineCode with
      | true =>
        obtain ⟨content, rfl⟩ := hnode.inlineCode hcode
        obtain rfl := NodeKind.Proper.eq_of_isInlineCode hnode.kind.1 hcode
        exact placed_code
      | false => exact placed_element hnode.kind hleaf hcode hnode.separate hchildren

end Builder

/-- A tree in normal form is built again from its events. -/
theorem Node.Normal.ofEvents_events_eq {tree : Node} (h : tree.Normal NodeKind.Plain) :
    ofEvents tree.events = tree := by
  obtain ⟨kind, children⟩ := tree
  obtain ⟨rfl, hseparate, hnodes, hnesting⟩ := h
  have hchildren : ∀ node ∈ children, Builder.Placed maxDepth node := fun node hnode =>
    Builder.placed_of_sound node fun n hn => hnodes n (mem_preorderAll.mpr ⟨node, hnode, hn⟩)
  have hdepth : Builder.depth { limit := some maxDepth } + nestingAll children ≤ maxDepth := by
    simpa [Builder.depth] using hnesting
  have hbuilt := Builder.foldl_push_eventsAll hchildren (.init maxDepth) hdepth
  have hevents : events ⟨.document, children⟩ = eventsAll children := rfl
  rw [ofEvents, ofEventsWithin, hevents, hbuilt]
  exact congrArg (Node.mk .document) hseparate.reverse_foldl_putNode

/-- What a stream without tables is built to is in normal form. -/
theorem Node.normal_ofEvents_of_not_isTable {stream : List Event}
    (h : ∀ event ∈ stream, event.isTable = false) : (ofEvents stream).Normal NodeKind.Plain :=
  normal_ofEvents
    (fun _ hleaf => ⟨NodeKind.proper_of_isLeaf hleaf, NodeKind.isTable_of_isLeaf hleaf⟩)
    ⟨rfl, rfl⟩ fun _ htag _ _ hkind => Tag.plain_of_kind? hkind (h _ htag)

/-- **Building undoes writing, and every built tree is a fixed point.** A tree in normal form and
without tables is built again from its events. What any stream without tables is built to,
balanced or not, is such a tree, so that building what it is written as changes nothing. -/
theorem Node.ofEvents_events :
    (∀ tree : Node, tree.Normal NodeKind.Plain → ofEvents tree.events = tree) ∧
      ∀ stream : List Event, (∀ event ∈ stream, event.isTable = false) →
        (ofEvents stream).Normal NodeKind.Plain ∧
          ofEvents (ofEvents stream).events = ofEvents stream := by
  refine ⟨fun tree htree => htree.ofEvents_events_eq, fun stream hstream => ?_⟩
  have hnormal := normal_ofEvents_of_not_isTable hstream
  exact ⟨hnormal, hnormal.ofEvents_events_eq⟩

/-- A stream that stops what it has not started and leaves open what it starts. -/
def unclosedStream : List Event :=
  [.stop .paragraph, .start (.heading (.ofNat 3)), .text "a", .inlineMath "b", .stop .emphasis,
    .start (.codeBlock (some "toml strict")), .code "c", .html "<p>", .inlineHtml "d",
    .start (.list (some 4)), .start .item, .start .superscript, .code "e"]

theorem Node.ofEvents_events_unclosedStream :
    (∀ event ∈ unclosedStream, event.isTable = false) ∧
      (ofEvents unclosedStream).Normal NodeKind.Plain ∧
        ofEvents (ofEvents unclosedStream).events = ofEvents unclosedStream := by
  have hplain : ∀ event ∈ unclosedStream, event.isTable = false := by decide
  have hnormal := (ofEvents_events.2 unclosedStream hplain).1
  exact ⟨hplain, hnormal, ofEvents_events.1 _ hnormal⟩

end MarkView
