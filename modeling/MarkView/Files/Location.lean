/-!
# Locations

A place in a file tree is told by the names on the way to it. The innermost name
comes first, so that the tail of a location is the directory that holds it.
-/

namespace MarkView

/-- A place in a file tree: the names that lead to it, the innermost first. -/
abbrev Location := List String

namespace Location

/-- The path of a location, from the root of the tree. -/
def text (place : Location) : String :=
  match place with
  | [] => "/"
  | _ => String.join (place.reverse.map fun name => "/" ++ name)

/-- The path of an entry is that of its directory, then its name. The path of the root ends with the
separator already. -/
theorem text_cons (name : String) (dir : Location) :
    text (name :: dir) = (if dir = [] then "" else dir.text) ++ "/" ++ name := by
  cases dir with
  | nil => simp [text, String.join]
  | cons inner above => simp [text, String.append_assoc]

/-- A location and all that lie above it, up to the root. -/
def upward : Location → List Location
  | [] => [[]]
  | name :: above => (name :: above) :: upward above

end Location

end MarkView
