/-!
# Escaping text for HTML

Five characters mean something to a reader of HTML; `escape` writes each of them
as an entity, so that text is never taken for markup.
-/

namespace MarkView.Html

/-- The written form of one character. -/
def escapeChar (c : Char) : List Char :=
  if c = '&' then "&amp;".toList
  else if c = '<' then "&lt;".toList
  else if c = '>' then "&gt;".toList
  else if c = '"' then "&quot;".toList
  else if c = '\'' then "&#39;".toList
  else [c]

/-- The written form of a text, by its characters. -/
def escapeChars (s : List Char) : List Char := s.flatMap escapeChar

/-- Whether a character has to be escaped. -/
def isSpecial (c : Char) : Bool :=
  c == '&' || c == '<' || c == '>' || c == '"' || c == '\''

/-- The written form of a text, in content and in attribute values alike. A text
without special characters is its own written form. -/
def escape (s : String) : String :=
  if s.toList.any isSpecial then String.ofList (escapeChars s.toList) else s

end MarkView.Html
