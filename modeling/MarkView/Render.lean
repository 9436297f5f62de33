import MarkView.Html.Serialize
import MarkView.Markdown.Parse
import MarkView.Outline
import MarkView.Tree.Builder
/-!
# Rendering

A `Pipeline` turns a Markdown text into a `Rendition`: the styled tree that a
preview shows, and the HTML that a code view shows. Both come from one reading of
the text.

The reading itself is the work of a `Parser`, which a pipeline carries with it. Unless
another is given it is `Markdown.events`, but what is done with a rendition relies on
no more than that the empty text has no events.
-/

namespace MarkView

/-- The two artifacts of one rendering. -/
structure Rendition where
  tree : StyledNode
  html : String
  deriving Inhabited

namespace Rendition

/-- The rendition of a document tree. -/
def ofNode (node : Node) : Rendition := ⟨node.styled, Html.serialize node.styled⟩

/-- The rendition of the empty document. -/
def empty : Rendition := ⟨Node.empty.styled, ""⟩

end Rendition

/-- A parser of Markdown: the events of a text, with the extensions of GitHub Flavored
Markdown or without. An empty text has none. -/
class Parser where
  events (gfm : Bool) (text : String) : List Event
  events_empty (gfm : Bool) : events gfm "" = []

/-- The parser that is used unless another is given. -/
instance Markdown.parser : Parser where
  events := Markdown.events
  events_empty gfm := by cases gfm <;> rfl

/-- How Markdown is read: with the extensions of GitHub Flavored Markdown, or plain, and
by which parser. -/
structure Pipeline where
  gfm : Bool := true
  [parser : Parser]
  deriving Inhabited

namespace Pipeline

/-- The document tree of a text. -/
def parse (pipeline : Pipeline) (text : String) : Node :=
  Node.ofEvents (pipeline.parser.events pipeline.gfm text)

/-- The rendition of a text. -/
def render (pipeline : Pipeline) (text : String) : Rendition :=
  Rendition.ofNode (pipeline.parse text)

/-- **The empty text is rendered to the empty document.** -/
theorem render_empty (pipeline : Pipeline) : pipeline.render "" = Rendition.empty := by
  rw [render, parse, pipeline.parser.events_empty]
  rfl

end Pipeline

/-- The extensions to Markdown that a reader may know. -/
inductive Extension
  | tables
  | strikethrough
  | tasklists
  | footnotes
  | definitionList
  | alerts
  | math
  | smartPunctuation
  | headingAttributes
  | superscript
  | wikilinks
  deriving DecidableEq, Repr, Inhabited

/-- The extensions that a pipeline reads. -/
def Pipeline.extensions (pipeline : Pipeline) : List Extension :=
  if pipeline.gfm then
    [.tables, .strikethrough, .tasklists, .footnotes, .definitionList, .alerts]
  else []

end MarkView
