import Std.Data.HashMap
import MarkView.Markdown.Label
import MarkView.Markdown.Mark
import MarkView.Markdown.Token
/-!
# The state of block analysis

Blocks are found line by line. What is found goes on a tape in document order:
events, and leaves whose running text is analysed once all definitions are known.
Whether a paragraph in a list is written as one depends on whether the list turns
out loose, and whether a paragraph is the title of a definition depends on the
line after it, so slots of the tape can be filled again.
-/

namespace MarkView.Markdown

/-- Running text: its tokens, where its block ends, and the containers that its
lines continue. -/
structure Leaf where
  tokens : Array Token
  stop : Nat
  containers : Array Container
  inTable : Bool
  deriving Inhabited

/-- One entry of the tape. A paragraph directly in an item carries the number of
the list that the item belongs to. -/
inductive Entry
  | event (event : Event)
  | leaf (leaf : Leaf)
  | paragraphStart (group : Option Nat)
  | paragraphStop (group : Option Nat)
  deriving Inhabited

/-- The latest block in a container, as far as a definition that follows asks: a
paragraph or a possible title with the slots of its start and stop, a definition,
or anything else. -/
inductive Latest
  | none
  | paragraph (start stop : Nat)
  | title (start stop : Nat)
  | definition
  | other
  deriving Inhabited

/-- What a link label stands for. -/
structure LinkTarget where
  url : String
  title : String
  deriving Inhabited

/-- The state of block analysis. The open containers, the document first, are kept
beside the latest block in each. `loose` holds for each list whether it is loose,
`emptyItem` tells that the latest line opened an item and nothing more, and
`blankBefore` that a blank line came before. -/
structure BlockState where
  source : Source
  gfm : Bool
  containers : Array Container := #[.document]
  latest : Array Latest := #[.none]
  tape : Array (List Entry) := #[]
  loose : Array Bool := #[]
  emptyItem : Bool := false
  blankBefore : Bool := false
  task : Option Bool := none
  targets : Std.HashMap String LinkTarget := {}
  footnotes : Std.HashMap String Unit := {}

namespace BlockState

/-- The innermost open container. -/
def innermost (b : BlockState) : Container := b.containers.back?.getD .document

/-- The container around the innermost one. -/
def around (b : BlockState) : Container :=
  (b.containers[b.containers.size - 2]?).getD .document

/-- The latest block in the innermost container. -/
def latestBlock (b : BlockState) : Latest := b.latest.back?.getD .none

/-- Record the latest block in the innermost container. -/
def setLatest (b : BlockState) (block : Latest) : BlockState :=
  { b with latest := b.latest.set! (b.latest.size - 1) block }

/-- Replace the innermost container. -/
def setInnermost (b : BlockState) (container : Container) : BlockState :=
  { b with containers := b.containers.set! (b.containers.size - 1) container }

/-- Add a slot to the tape. -/
def add (b : BlockState) (entries : List Entry) : BlockState :=
  { b with tape := b.tape.push entries }

/-- Fill a slot of the tape again. -/
def fill (b : BlockState) (slot : Nat) (entries : List Entry) : BlockState :=
  { b with tape := b.tape.set! slot entries }

/-- Add events to the tape, in a slot of their own. -/
def emit (b : BlockState) (events : List Event) : BlockState :=
  b.add (events.map .event)

/-- The number of the list that a paragraph in the innermost container belongs to. -/
def paragraphGroup (b : BlockState) : Option Nat :=
  if b.innermost.isItem then b.around.group? else none

/-- Make the list with the given number loose. -/
def loosen (b : BlockState) (group : Nat) : BlockState :=
  { b with loose := b.loose.set! group true }

/-- Open a container without adding to the tape. -/
def enter (b : BlockState) (container : Container) : BlockState :=
  { b with containers := b.containers.push container, latest := b.latest.push .none }

/-- Open a container. -/
def openContainer (b : BlockState) (container : Container) (tag : Tag) : BlockState :=
  let latest := match container with
    | .definition _ => Latest.definition
    | _ => .other
  ((b.setLatest latest).emit [.start tag]).enter container

/-- Forget the innermost container without adding to the tape. -/
def leave (b : BlockState) : BlockState :=
  { b with containers := b.containers.pop, latest := b.latest.pop }

/-- Close a definition list. A possible title at its end is a paragraph after it. -/
def closeDefinitions (b : BlockState) (ended : Bool) : BlockState :=
  let latest := b.latestBlock
  let b := { b.leave with emptyItem := false }
  match latest with
  | .title start stop =>
    let group := b.paragraphGroup
    ((b.fill start [.event (.stop .definitionList), .paragraphStart group]).fill stop
      [.paragraphStop group]).setLatest (.paragraph start stop)
  | _ => if ended then b else b.emit [.stop .definitionList]

/-- Close the innermost container. -/
def close (b : BlockState) : BlockState :=
  match b.innermost with
  | .document => b
  | .blockQuote => b.leave.emit [.stop .blockQuote]
  | .item _ => b.leave.emit [.stop .item]
  | .definition _ => b.leave.emit [.stop .definitionListDefinition]
  | .footnote => b.leave.emit [.stop .footnoteDefinition]
  | .list group _ =>
    { b.leave with emptyItem := b.emptyItem && b.loose.getD group false }.emit [.stop .list]
  | .definitionList _ ended => b.closeDefinitions ended

/-- Close containers until at most `n` are open. -/
def closeTo (b : BlockState) (n : Nat) : BlockState :=
  (List.range (b.containers.size - n)).foldl (fun b _ => b.close) b

/-- An item that has stayed empty ends at a blank line. -/
def finishEmptyItem (b : BlockState) : BlockState :=
  let b := if b.emptyItem && b.blankBefore && b.innermost.isItem then b.close else b
  { b with emptyItem := false }

/-- Close a list that is innermost, since a block follows that is no item of it. A
blank line before that block makes the list around its item loose. -/
def finishList (b : BlockState) : BlockState :=
  let b := b.finishEmptyItem
  let b := if b.innermost.group?.isSome then b.close else b
  if b.blankBefore then
    let b := match b.around.group? with
      | some group => b.loosen group
      | none => b
    { b with blankBefore := false }
  else b

/-- Go on with the list that is innermost, or start one, for an item with the given
mark. -/
def continueList (b : BlockState) (mark : ItemMark) : BlockState :=
  let b := b.finishEmptyItem
  let same := match b.innermost with
    | .list group marker => if marker == mark.marker then some group else none
    | _ => none
  match same with
  | some group => if b.blankBefore then { b.loosen group with blankBefore := false } else b
  | none =>
    let b := if b.innermost == .document then b else b.finishList
    let ordered := mark.marker == '.' || mark.marker == ')'
    let group := b.loose.size
    { b with loose := b.loose.push false, blankBefore := false }.openContainer
      (.list group mark.marker) (.list (if ordered then some mark.number else none))

/-- Add a block that is a leaf: the events around it with its running text between
them. A pending task marker stands at the start of the text. -/
def addLeaf (b : BlockState) (start : List Entry) (leaf : Leaf) (stop : List Entry) :
    BlockState :=
  let marker := b.task.toList.map fun checked => Entry.event (.taskListMarker checked)
  { ((b.add start).add (marker ++ [.leaf leaf])).add stop with task := none }

/-! ## Lines that end a paragraph -/

/-- The footnote mark at `i`: the position after its colon, and the label. -/
def footnoteMark? (b : BlockState) (inTable : Bool) (i : Nat) : Option (Nat × String) :=
  let s := b.source
  if b.gfm && s.has i '[' && s.has (i + 1) '^' then
    (label? s inTable (fun _ => none) (i + 2)).bind fun (next, label) =>
      if s.has next ':' then some (next + 1, label) else none
  else none

/-- Whether a definition may start at the first container that a line does not
continue, of which there are `matched` before. -/
def definitionMayFollow (b : BlockState) (matched : Nat) : Bool :=
  match b.containers[matched]? with
  | none => true
  | some (.definition _) => true
  | some _ => false

/-- Whether the line whose text starts at `i` and which continues `matched`
containers starts a block that may end running text. -/
def startsBlock (b : BlockState) (inTable : Bool) (matched i : Nat) : Bool :=
  let s := b.source
  (s.lineEnd? i).isSome || (thematicBreak? s i).isSome || (headingLevel? s i).isSome ||
    (fence? s i).isSome || s.has i '>' ||
    itemInterrupts s (inTable || matched < b.containers.size) i ||
    (rawBlock? s true i).isSome ||
    (b.gfm && !inTable && b.definitionMayFollow matched &&
      (definitionMark? s 0 (.start i)).isSome) ||
    (b.footnoteMark? inTable i).isSome

/-- Whether the line at `i` starts with a bar and is with the next the head of a
table. -/
def startsTable (b : BlockState) (i : Nat) : Bool :=
  let s := b.source
  s.has i '|' && (
    let (bars, lastBar, next) := countBars s s.fuel i 0 i false
    let (matched, place) := continued s b.containers next
    matched == b.containers.size &&
      match ruling? s place.pos with
      | some (_, columns) => columns.length == headingCount s i bars lastBar
      | none => false)

/-- Whether the line whose text starts at `i` and which continues `matched`
containers ends a paragraph. -/
def endsParagraph (b : BlockState) (matched i : Nat) : Bool :=
  b.startsBlock false matched i || (b.gfm && b.startsTable i)

/-- The line at `i` as the possible continuation of a paragraph: how many containers
it continues, its place after up to four columns of indentation, and whether it
ends the paragraph. A line with four columns of indentation does not. -/
def paragraphLine (b : BlockState) (i : Nat) : Nat × Cursor × Bool :=
  let (matched, place) := continued b.source b.containers i
  let (found, next) := place.columns b.source 4
  (matched, next, found < 4 && b.endsParagraph matched next.pos)

end BlockState

end MarkView.Markdown
