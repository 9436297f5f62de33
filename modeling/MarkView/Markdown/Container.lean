import MarkView.Markdown.Cursor
/-!
# Containers

The blocks that hold other blocks. Some of them must be continued on every line
by a mark or by indentation; `continued` tells how many of the open containers a
line continues, and where the rest of the line begins.
-/

namespace MarkView.Markdown

/-- An open container. A list and a definition list carry the number that their
items are known by, a list also the character of its markers. An item and a
definition carry the indentation of their content. -/
inductive Container
  | document
  | blockQuote
  | list (group : Nat) (marker : Char)
  | item (indent : Nat)
  | definitionList (group : Nat) (ended : Bool)
  | definition (indent : Nat)
  | footnote
  deriving DecidableEq, Repr, Inhabited

namespace Container

/-- The indentation that continues a container which asks for one. -/
def indent? : Container → Option Nat
  | item n => some n
  | definition n => some n
  | footnote => some 4
  | _ => none

/-- The number of a list of either kind. -/
def group? : Container → Option Nat
  | list group _ => some group
  | definitionList group _ => some group
  | _ => none

/-- Whether a container is the content of a list item or of a definition. -/
def isItem : Container → Bool
  | item _ | definition _ => true
  | _ => false

end Container

/-- Step over the mark of a block quote and one column after it. -/
def quoteMark? (s : Source) (c : Cursor) : Option Cursor :=
  (c.skipChar? s '>').map (·.skipColumns s 1)

/-- Step over what continues one container, if it is there. -/
def Container.continue? (s : Source) (container : Container) (c : Cursor) : Option Cursor :=
  match container with
  | .blockQuote => quoteMark? s (c.skipColumns s 3)
  | _ =>
    match container.indent? with
    | some indent =>
      let (found, next) := c.columns s indent
      if found == indent || next.atLineEnd s then some next else none
    | none => some c

/-- Of the containers from number `i` on, how many in all are continued from `c`
on, and the place after what continues them. -/
def continuedFrom (s : Source) (containers : Array Container) (i : Nat) (c : Cursor) : Nat × Cursor :=
  if h : i < containers.size then
    match containers[i].continue? s c with
    | some next => continuedFrom s containers (i + 1) next
    | none => (i, c)
  else (i, c)
termination_by containers.size - i

/-- How many of the open containers the line at position `i` continues, and the
place after what continues them. -/
def continued (s : Source) (containers : Array Container) (i : Nat) : Nat × Cursor :=
  continuedFrom s containers 0 (.start i)

/-- The position after what continues the open containers on the line at `i`. -/
def skipContainers (s : Source) (containers : Array Container) (i : Nat) : Nat :=
  (continued s containers i).2.pos

end MarkView.Markdown
