import MarkView.Markdown.Inline
/-!
# Markdown

`Markdown.events` reads a text as CommonMark or, with `gfm`, as GitHub Flavored
Markdown: with tables, strikethrough, task lists, footnotes, definition lists and
alerts.
-/

namespace MarkView.Markdown

/-- The least amount of text that link references may bring into a document. -/
def leastBudget : Nat := 100000

/-- The events of an entry of the tape, and the budget left after it. -/
def Entry.events (s : Source) (definitions : Definitions) (loose : Array Bool) (budget : Nat) :
    Entry → List Event × Nat
  | event e => ([e], budget)
  | leaf text => leafEvents s definitions budget text
  | paragraphStart group =>
    (if (group.map (loose.getD · false)).getD true then [.start .paragraph] else [], budget)
  | paragraphStop group =>
    (if (group.map (loose.getD · false)).getD true then [.stop .paragraph] else [], budget)

/-- The events of a document. -/
def events (gfm : Bool) (text : String) : List Event :=
  let s := Source.ofString text
  let b := analyse gfm s
  let definitions : Definitions := ⟨b.targets, b.footnotes, gfm⟩
  let step := fun (state : Array Event × Nat) (entry : Entry) =>
    let (es, budget) := entry.events s definitions b.loose state.2
    (state.1 ++ es, budget)
  let result := b.tape.foldl (fun state entries => entries.foldl step state)
    (#[], max text.utf8ByteSize leastBudget)
  result.1.toList

end MarkView.Markdown
