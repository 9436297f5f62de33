import MarkView.Proofs.Tree.Joining
import Mathlib.Logic.Relation
/-!
# Streams with the same tree

Some features of a stream do not show in its tree: into how many pieces a text is cut, whether raw
HTML stands in a line or in a block, where transparent elements begin and end, by which name an
element is stopped, and the stops before the first start and after the last. Streams that differ in
nothing else have the same tree (`ofEvents_eq_of_variations`).

Changes of two sorts are behind that. What is `Interchangeable` can be changed in the middle of any
stream, as it brings every builder from the same state to the same state. Stops at the two ends of
a stream do change the state: a fresh builder ignores them, and a builder that is about to finish
would have closed the same elements itself.
-/

namespace MarkView

/-- A stop by this name closes an element and does nothing else: it neither belongs to a transparent
element nor ends the header cells of a table. -/
def TagName.isOrdinary (name : TagName) : Bool := !name.isTransparent && name != .tableHead

namespace Event

/-- Events that can stand in each other's place: a text or raw HTML in one piece or in two, raw HTML
in a block or in a line, one end of a transparent element or nothing, and two ordinary stops. -/
inductive Interchangeable : List Event → List Event → Prop
  | text (s t : String) : Interchangeable [.text (s ++ t)] [.text s, .text t]
  | html (s t : String) : Interchangeable [.html (s ++ t)] [.html s, .html t]
  | inlineHtml (s t : String) :
    Interchangeable [.inlineHtml (s ++ t)] [.inlineHtml s, .inlineHtml t]
  | inline (s : String) : Interchangeable [.html s] [.inlineHtml s]
  | transparentStart (tag : Tag) (h : tag.name.isTransparent = true) :
    Interchangeable [] [.start tag]
  | transparentStop (name : TagName) (h : name.isTransparent = true) :
    Interchangeable [] [.stop name]
  | rename (name name' : TagName) (h : name.isOrdinary = true) (h' : name'.isOrdinary = true) :
    Interchangeable [.stop name] [.stop name']

/-- One change of a stream that does not show in its tree. -/
inductive Variation : List Event → List Event → Prop
  | within {part part' : List Event} (before after : List Event)
    (h : Interchangeable part part') :
    Variation (before ++ part ++ after) (before ++ part' ++ after)
  | stopsBefore (names : List TagName) (events : List Event) :
    Variation events (names.map .stop ++ events)
  | stopsAfter (names : List TagName) (events : List Event) :
    Variation events (events ++ names.map .stop)

end Event

namespace Builder

variable {b : Builder} {part part' : List Event}

/-! ## In the middle of a stream -/

/-- Two leaves that merge can be put in one after the other or as one. -/
theorem put_put {first second both : NodeKind}
    (h : (Node.leaf first).merge? (.leaf second) = some (.leaf both)) :
    (b.put first).put second = b.put both := by
  rw [put, put, updateChildren_updateChildren]
  exact congrArg b.updateChildren (funext fun _ => Node.putNode_putNode h)

/-- An ordinary stop closes an element, whatever its name. -/
theorem push_stop_of_isOrdinary {name : TagName} (h : name.isOrdinary = true) :
    b.push (.stop name) = b.closeElement := by
  obtain ⟨hname, hhead⟩ : name.isTransparent = false ∧ name ≠ .tableHead := by
    simpa [TagName.isOrdinary] using h
  rw [push, stop, hname, TablePlace.leave, if_neg hhead]
  rfl

/-- **What is interchangeable has the same effect on every builder.** -/
theorem foldl_push_interchangeable (h : Event.Interchangeable part part') (b : Builder) :
    part.foldl push b = part'.foldl push b := by
  cases h with
  | text s t =>
    simp only [List.foldl_cons, List.foldl_nil, push, addText_eq]
    exact (put_put rfl).symm
  | html s t | inlineHtml s t =>
    simp only [List.foldl_cons, List.foldl_nil, push, addHtml_eq]
    exact (put_put rfl).symm
  | inline s => rfl
  | transparentStart tag h => exact (push_start_of_isTransparent h).symm
  | transparentStop name h => exact (push_stop_of_isTransparent h).symm
  | rename name name' h h' =>
    exact (push_stop_of_isOrdinary h).trans (push_stop_of_isOrdinary h').symm

/-! ## At its two ends -/

/-- A fresh builder ignores stops. -/
theorem foldl_push_stops_init (limit : Option Nat) (names : List TagName) :
    (names.map Event.stop).foldl push { limit } = { limit } := by
  have hstop (name : TagName) : push { limit } (.stop name) = { limit } := by
    have hleave : TablePlace.leave {} name = {} := by
      unfold TablePlace.leave
      split <;> rfl
    rw [push, stop, hleave, closeElement_of_depth_zero rfl rfl, ite_self]
  induction names with
  | nil => rfl
  | cons name rest ih => rw [List.map_cons, List.foldl_cons, hstop, ih]

theorem finish_push_stop (b : Builder) (name : TagName) :
    (b.push (.stop name)).finish = b.finish := by
  rw [push, stop]
  split
  · rfl
  · rw [finish_closeElement, finish_withTable]

/-- **Stops at the end do not show.** -/
theorem finish_foldl_push_stops (b : Builder) (names : List TagName) :
    ((names.map Event.stop).foldl push b).finish = b.finish := by
  induction names generalizing b with
  | nil => rfl
  | cons name rest ih => rw [List.map_cons, List.foldl_cons, ih, finish_push_stop]

end Builder

/-! ## Trees -/

/-- One change leaves the tree as it is. -/
theorem Event.Variation.ofEvents_eq {events events' : List Event}
    (h : Event.Variation events events') : Node.ofEvents events = Node.ofEvents events' := by
  simp only [Node.ofEvents, Node.ofEventsWithin]
  cases h with
  | within before after h =>
    simp only [List.foldl_append, Builder.foldl_push_interchangeable h]
  | stopsBefore names =>
    rw [List.foldl_append, Builder.foldl_push_stops_init]
  | stopsAfter names =>
    rw [List.foldl_append, Builder.finish_foldl_push_stops]

/-- **The tree of a stream does not depend on its accidents.** Any number of variations, made one
after the other and each of them in either direction, leaves the tree as it is. -/
theorem Node.ofEvents_eq_of_variations {events events' : List Event}
    (h : Relation.EqvGen Event.Variation events events') : ofEvents events = ofEvents events' := by
  induction h with
  | rel events events' h => exact h.ofEvents_eq
  | refl events => rfl
  | symm events events' _ ih => exact ih.symm
  | trans events between events' _ _ ih ih' => exact ih.trans ih'

/-- A heading and an open paragraph. -/
def headedStream : List Event :=
  [.start (.heading (.ofNat 2)), .text "ab", .stop .heading, .start .paragraph, .inlineHtml "<i>"]

/-- The same with stray stops, a text in two pieces, a wrong name and half of a transparent
element. -/
def strayStream : List Event :=
  [.stop .tableHead, .stop .item, .start (.heading (.ofNat 2)), .text "a", .text "b", .stop .link,
    .start .superscript, .start .paragraph, .html "<i>", .stop .emphasis, .stop .htmlBlock,
    .stop .paragraph]

theorem Node.ofEvents_eq_of_variations_strayStream :
    Relation.EqvGen Event.Variation headedStream strayStream ∧
      ofEvents headedStream = ofEvents strayStream := by
  have hvaried : Relation.EqvGen Event.Variation headedStream strayStream := by
    -- one variation after the other, from the start of the stream to its end
    refine .trans _ _ _ (.rel _ _ (.stopsBefore [.tableHead, .item] _)) ?_
    refine .trans _ _ _ (.rel _ _ (.within (strayStream.take 3) (headedStream.drop 2)
      (.text "a" "b"))) ?_
    refine .trans _ _ _ (.rel _ _ (.within (strayStream.take 5) (headedStream.drop 3)
      (.rename .heading .link rfl rfl))) ?_
    refine .trans _ _ _ (.rel _ _ (.within (strayStream.take 6) (headedStream.drop 3)
      (.transparentStart .superscript rfl))) ?_
    refine .trans _ _ _ (.symm _ _ (.rel _ _ (.within (strayStream.take 8) []
      (.inline "<i>")))) ?_
    exact .rel _ _ (.stopsAfter [.emphasis, .htmlBlock, .paragraph] _)
  exact ⟨hvaried, ofEvents_eq_of_variations hvaried⟩

end MarkView
