import MarkView.Html.Markup
/-!
# Reading HTML

A reader of HTML that knows nothing of who wrote it. It goes through the text one
character at a time (`Lexer.step`): a `<` starts a tag, an attribute has a value
in double quotes or is one of the two that need none, and in text and values
alike one of five entities stands for a character that would mean something
else. The tags are then matched (`nest`): every start tag but that of a void
element is closed by the end tag of its name, and void elements have no end tag.
Whatever is not of that form is refused.

What is read is a row of elements and single characters, so text has one form
only, however it was written.
-/

namespace MarkView.Html

/-- What the reader meets: a tag, or one character of text. -/
inductive Token
  | startTag (name : String) (attributes : List Attribute)
  | endTag (name : String)
  | char (c : Char)
  deriving DecidableEq, Repr

/-- An element with its content, or one character of text. -/
inductive Dom
  | element (name : String) (attributes : List Attribute) (children : List Dom)
  | char (c : Char)
  deriving Repr

/-- The elements without content and end tag. -/
def voidNames : List String := ["hr", "br", "img", "input"]

/-- The attributes that may stand without a value. -/
def flagNames : List String := ["checked", "disabled"]

/-- The character that an entity stands for. -/
def entity? : List Char → Option Char
  | ['a', 'm', 'p'] => some '&'
  | ['l', 't'] => some '<'
  | ['g', 't'] => some '>'
  | ['q', 'u', 'o', 't'] => some '"'
  | ['#', '3', '9'] => some '\''
  | _ => none

/-- Characters of the names of tags and attributes. -/
def isNameChar (c : Char) : Bool := c.isLower || c.isDigit

/-! ## Characters to tags -/

/-- A start tag as far as it has been read, its latest attribute first. -/
structure Opening where
  name : String
  attributes : List Attribute := []
  deriving DecidableEq, Repr

/-- The tag with one more attribute. -/
def Opening.add (tag : Opening) (a : Attribute) : Opening :=
  { tag with attributes := a :: tag.attributes }

/-- What a character that stands for itself belongs to: the text, or the value of
an attribute, whose latest character comes first. -/
inductive Place
  | content
  | value (tag : Opening) (name : String) (soFar : List Char)
  deriving DecidableEq, Repr

/-- What the reader is in the middle of. Names are kept latest character first. -/
inductive Mode
  | literal (place : Place)
  | entity (place : Place) (name : List Char)
  | tag
  | startName (name : List Char)
  | endName (name : List Char)
  | attributeName (tag : Opening) (name : List Char)
  | quote (tag : Opening) (name : String)
  | afterValue (tag : Opening)
  deriving DecidableEq, Repr

/-- The state of the reader, the latest token first. -/
structure Lexer where
  mode : Mode := .literal .content
  tokens : List Token := []
  deriving DecidableEq, Repr

namespace Lexer

/-- Take a character for itself. -/
def put (tokens : List Token) (c : Char) : Place → Lexer
  | .content => ⟨.literal .content, .char c :: tokens⟩
  | .value tag name soFar => ⟨.literal (.value tag name (c :: soFar)), tokens⟩

/-- The end of a start tag. -/
def finish (tokens : List Token) (tag : Opening) : Lexer :=
  ⟨.literal .content, .startTag tag.name tag.attributes.reverse :: tokens⟩

/-- The tag with an attribute that has no value. -/
def addFlag? (tag : Opening) (name : List Char) : Option Opening :=
  let name := String.ofList name.reverse
  if name ∈ flagNames then some (tag.add (.flag name)) else none

/-- A character where it may stand for itself. -/
def stepLiteral (tokens : List Token) (place : Place) (c : Char) : Option Lexer :=
  if c = '&' then some ⟨.entity place [], tokens⟩
  else if c = '>' then none
  else
    match place with
    | .content => if c = '<' then some ⟨.tag, tokens⟩ else some (put tokens c place)
    | .value tag name soFar =>
      if c = '<' then none
      else if c = '"' then
        some ⟨.afterValue (tag.add (.ofValue name (String.ofList soFar.reverse))), tokens⟩
      else some (put tokens c place)

/-- A character in an attribute's name, or after the blank before it. -/
def stepAttributeName (tokens : List Token) (tag : Opening) (name : List Char) (c : Char) :
    Option Lexer :=
  if isNameChar c then some ⟨.attributeName tag (c :: name), tokens⟩
  else if c = '=' then
    if name = [] then none else some ⟨.quote tag (String.ofList name.reverse), tokens⟩
  else if c = ' ' then (addFlag? tag name).map fun tag => ⟨.attributeName tag [], tokens⟩
  else if c = '>' then (addFlag? tag name).map (finish tokens)
  else none

/-- One character. -/
def step : Lexer → Char → Option Lexer
  | ⟨.literal place, tokens⟩, c => stepLiteral tokens place c
  | ⟨.entity place name, tokens⟩, c =>
    if c = ';' then (entity? name.reverse).map (put tokens · place)
    else some ⟨.entity place (c :: name), tokens⟩
  | ⟨.tag, tokens⟩, c =>
    if c = '/' then some ⟨.endName [], tokens⟩
    else if isNameChar c then some ⟨.startName [c], tokens⟩
    else none
  | ⟨.startName name, tokens⟩, c =>
    if isNameChar c then some ⟨.startName (c :: name), tokens⟩
    else if c = ' ' then some ⟨.attributeName { name := String.ofList name.reverse } [], tokens⟩
    else if c = '>' then some (finish tokens { name := String.ofList name.reverse })
    else none
  | ⟨.endName name, tokens⟩, c =>
    if isNameChar c then some ⟨.endName (c :: name), tokens⟩
    else if c = '>' ∧ name ≠ [] then
      some ⟨.literal .content, .endTag (String.ofList name.reverse) :: tokens⟩
    else none
  | ⟨.attributeName tag name, tokens⟩, c => stepAttributeName tokens tag name c
  | ⟨.quote tag name, tokens⟩, c =>
    if c = '"' then some ⟨.literal (.value tag name []), tokens⟩ else none
  | ⟨.afterValue tag, tokens⟩, c =>
    if c = ' ' then some ⟨.attributeName tag [], tokens⟩
    else if c = '>' then some (finish tokens tag)
    else none

/-- All characters of a text. -/
def run : List Char → Lexer → Option Lexer
  | [], lexer => some lexer
  | c :: rest, lexer => (lexer.step c).bind (run rest)

end Lexer

/-- The tags and characters of a text, which must not end within one. -/
def lex (html : String) : Option (List Token) :=
  match Lexer.run html.toList {} with
  | some ⟨.literal .content, tokens⟩ => some tokens.reverse
  | _ => none

/-! ## Tags to elements -/

/-- An element whose end tag is still to come, with what precedes it, the latest
first. -/
structure Pending where
  name : String
  attributes : List Attribute
  before : List Dom

/-- Match the tags. `row` is what the innermost open element has so far, the latest
first, and `outer` the open elements, the innermost first. -/
def nest (row : List Dom) (outer : List Pending) : List Token → Option (List Dom)
  | [] => if outer.isEmpty then some row.reverse else none
  | .char c :: rest => nest (.char c :: row) outer rest
  | .startTag name attributes :: rest =>
    if name ∈ voidNames then nest (.element name attributes [] :: row) outer rest
    else nest [] (⟨name, attributes, row⟩ :: outer) rest
  | .endTag name :: rest =>
    match outer with
    | [] => none
    | inner :: outer =>
      if name = inner.name then
        nest (.element inner.name inner.attributes row.reverse :: inner.before) outer rest
      else none

/-- **The document that a text is**, or nothing if it is not well formed. -/
def read (html : String) : Option (List Dom) := (lex html).bind (nest [] [])

end MarkView.Html
