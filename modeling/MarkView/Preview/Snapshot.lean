import MarkView.Config.Settings
import MarkView.Outline
import MarkView.Render
/-!
# Snapshots

A snapshot is a rendition with the number of the revision that it was made from. The
tree and the HTML travel together, so whoever holds one sees one revision only.
-/

namespace MarkView

/-- What a view shows. -/
inductive View
  | preview (tree : StyledNode)
  | code (html : String)
  deriving Inhabited

/-- The text of a view: the outline of a tree, or the HTML. -/
def View.text : View → String
  | .preview tree => outline tree
  | .code html => html

/-- What is printed for a view. The lines of an outline are ended already. -/
def View.printed : View → String
  | .preview tree => outline tree
  | .code html => html ++ "\n"

/-- A rendition and the revision that it was made from. -/
structure Snapshot where
  revision : Nat
  rendition : Rendition
  deriving Inhabited

namespace Snapshot

/-- The snapshot of the empty document, before any revision. -/
def initial : Snapshot := ⟨0, Rendition.empty⟩

/-- The styled tree of a snapshot. -/
def tree (snapshot : Snapshot) : StyledNode := snapshot.rendition.tree

/-- The HTML of a snapshot. -/
def html (snapshot : Snapshot) : String := snapshot.rendition.html

/-- What a view shows of a snapshot. -/
def view (snapshot : Snapshot) : ViewMode → View
  | .preview => .preview snapshot.tree
  | .code => .code snapshot.html

end Snapshot

end MarkView
