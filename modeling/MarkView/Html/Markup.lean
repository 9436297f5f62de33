import MarkView.Html.Escape
/-!
# HTML markup

A piece of HTML is a start tag with attributes, an end tag, or text. A document
is a list of pieces; written out, the text and the attribute values of each piece
are escaped.
-/

namespace MarkView.Html

/-- An attribute: with a value, or a bare name. -/
structure Attribute where
  name : String
  value : Option String
  deriving DecidableEq, Repr, Inhabited

/-- An attribute with a value. -/
def Attribute.ofValue (name value : String) : Attribute := ⟨name, some value⟩

/-- An attribute that is a bare name. -/
def Attribute.flag (name : String) : Attribute := ⟨name, none⟩

/-- One piece of HTML. -/
inductive Markup
  | startTag (name : String) (attributes : List Attribute)
  | endTag (name : String)
  | text (content : String)
  deriving DecidableEq, Repr, Inhabited

/-- The written form of an attribute, with the space before it. -/
def Attribute.write : Attribute → String
  | ⟨name, some value⟩ => " " ++ name ++ "=\"" ++ escape value ++ "\""
  | ⟨name, none⟩ => " " ++ name

/-- The written form of a piece. -/
def Markup.write : Markup → String
  | startTag name attributes =>
    "<" ++ name ++ String.join (attributes.map Attribute.write) ++ ">"
  | endTag name => "</" ++ name ++ ">"
  | text content => escape content

/-- The written form of a list of pieces. -/
def writeAll (pieces : List Markup) : String := String.join (pieces.map Markup.write)

end MarkView.Html
