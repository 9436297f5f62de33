import MarkView.Markdown.Source
/-!
# Raw HTML

Tags, comments and the other forms of markup that the source may hold. Where a
form may run over several lines, the start of each further line belongs to the
containers of the block and not to the form; `lineStart` then tells where the
line's own text begins.
-/

namespace MarkView.Markdown

/-- A position inside a tag, with the text of the tag that was cut free of
containers: `kept` ends at `mark`, and `cut` tells whether anything was left out. -/
structure TagPlace where
  pos : Nat
  mark : Nat
  kept : String
  cut : Bool

namespace TagPlace

/-- Go on at position `i` of the same line. -/
def moveTo (p : TagPlace) (i : Nat) : TagPlace := { p with pos := i }

/-- Go on at the line that starts at `i`, whose own text starts at `next`. -/
def newLine (s : Source) (p : TagPlace) (i next : Nat) : TagPlace :=
  if i < next then ⟨next, next, p.kept ++ s.slice p.mark i, true⟩ else p.moveTo i

end TagPlace

/-- Skip white space inside a tag. A line ending needs a `lineStart`. -/
def skipTagSpace? (s : Source) (lineStart : Option (Nat → Nat)) (fuel : Nat) (p : TagPlace) :
    Option TagPlace :=
  match fuel with
  | 0 => none
  | fuel + 1 =>
    match s.get? p.pos with
    | none => some p
    | some c =>
      if Source.isLineEnd c then
        match lineStart, s.lineEnd? p.pos with
        | some next, some i => skipTagSpace? s lineStart fuel (p.newLine s i (next i))
        | _, _ => none
      else if Source.isBlank c then skipTagSpace? s lineStart fuel (p.moveTo (p.pos + 1))
      else some p

/-- Read a quoted attribute value up to its closing `quote`. -/
def quotedValue? (s : Source) (lineStart : Option (Nat → Nat)) (quote : Char) (fuel : Nat)
    (p : TagPlace) : Option TagPlace :=
  match fuel with
  | 0 => none
  | fuel + 1 =>
    match s.get? p.pos with
    | none => none
    | some c =>
      if c == quote then some (p.moveTo (p.pos + 1))
      else if Source.isLineEnd c then
        match lineStart, s.lineEnd? p.pos with
        | some next, some i => quotedValue? s lineStart quote fuel (p.newLine s i (next i))
        | _, _ => none
      else quotedValue? s lineStart quote fuel (p.moveTo (p.pos + 1))

/-- Characters of an attribute value without quotes. -/
def isBareValueChar (c : Char) : Bool :=
  !(c == '\'' || c == '"' || c == ' ' || c == '=' || c == '>' || c == '<' || c == '\x60' ||
    Source.isLineEnd c)

/-- Read an attribute value. -/
def attributeValue? (s : Source) (lineStart : Option (Nat → Nat)) (p : TagPlace) :
    Option TagPlace :=
  match s.get? p.pos with
  | none => none
  | some c =>
    if c == '"' || c == '\'' then quotedValue? s lineStart c s.fuel (p.moveTo (p.pos + 1))
    else if isBareValueChar c then some (p.moveTo (s.skipWhile isBareValueChar p.pos))
    else none

/-- Characters that start the name of an attribute. -/
def isNameStart (c : Char) : Bool := c.isAlpha || c == '_' || c == ':'

/-- Characters of the name of an attribute after the first. -/
def isNameChar (c : Char) : Bool := c.isAlphanum || c == '_' || c == '.' || c == ':' || c == '-'

/-- Read an attribute. White space after one without a value is left. -/
def attribute? (s : Source) (lineStart : Option (Nat → Nat)) (p : TagPlace) : Option TagPlace :=
  if s.test p.pos isNameStart then
    let named := p.moveTo (s.skipWhile isNameChar (p.pos + 1))
    (skipTagSpace? s lineStart s.fuel named).bind fun equals =>
      if s.has equals.pos '=' then
        (skipTagSpace? s lineStart s.fuel (equals.moveTo (equals.pos + 1))).bind
          (attributeValue? s lineStart)
      else some named
  else none

/-- Read the attributes of a start tag up to its end. -/
def attributes? (s : Source) (lineStart : Option (Nat → Nat)) (fuel : Nat) (p : TagPlace) :
    Option TagPlace :=
  match fuel with
  | 0 => none
  | fuel + 1 =>
    (skipTagSpace? s lineStart s.fuel p).bind fun next =>
      if s.has next.pos '/' || s.has next.pos '>' then some next
      else if next.pos == p.pos then none
      else (attribute? s lineStart next).bind (attributes? s lineStart fuel)

/-- Characters of the name of a tag after the first. -/
def isTagNameChar (c : Char) : Bool := c.isAlphanum || c == '-'

/-- The tag whose `<` stands at `i`: the position after it, and its text. -/
def tag? (s : Source) (lineStart : Option (Nat → Nat)) (i : Nat) : Option (Nat × String) :=
  let closing := s.has (i + 1) '/'
  let name := if closing then i + 2 else i + 1
  if s.test name Char.isAlpha then
    let p : TagPlace := ⟨s.skipWhile isTagNameChar name, i, "", false⟩
    (if closing then some p else attributes? s lineStart s.fuel p).bind fun p =>
      let last := s.skipBlanks p.pos
      let last := if !closing && s.has last '/' then last + 1 else last
      if s.has last '>' then some (last + 1, p.kept ++ s.slice p.mark (last + 1)) else none
  else none

/-- For each form of raw HTML that runs up to a fixed end, a position from which
that end is known not to follow. -/
structure RawLimits where
  comment : Nat
  instruction : Nat
  declaration : Nat
  characterData : Nat

/-- The limits while nothing is known. -/
def RawLimits.unknown : RawLimits := ⟨0, 0, 0, 0⟩

/-- The position after the first `word` from `i` on, where `word` starts with `c`. -/
def afterWord? (s : Source) (c : Char) (word : List Char) (fuel i : Nat) : Option Nat :=
  match fuel with
  | 0 => none
  | fuel + 1 =>
    (s.find? c i).bind fun j =>
      if s.hasWord j word then some (j + word.length) else afterWord? s c word fuel (j + 1)

/-- The end of the markup that starts with `<!` or `<?`, of which the second
character stands at `i`, and what is known of later ends. -/
def declarationEnd? (s : Source) (limits : RawLimits) (i : Nat) : Option Nat × RawLimits :=
  if s.has i '?' then
    if i < limits.instruction then (none, limits)
    else
      match afterWord? s '?' "?>".toList s.fuel (i + 1) with
      | some next => (some next, limits)
      | none => (none, { limits with instruction := s.stop })
  else if s.hasWord (i + 1) "--".toList then
    if s.has (i + 3) '>' then (some (i + 4), limits)
    else if s.hasWord (i + 3) "->".toList then (some (i + 5), limits)
    else if i < limits.comment then (none, limits)
    else
      match afterWord? s '-' "-->".toList s.fuel (i + 3) with
      | some next => (some next, limits)
      | none => (none, { limits with comment := s.stop })
  else if s.hasWord (i + 1) "[CDATA[".toList then
    if i < limits.characterData then (none, limits)
    else
      let bracket := s.skipWhile (· != ']') (i + 8)
      let next := s.skipWhile (· == ']') bracket
      if bracket < next && s.has next '>' then (some (next + 1), limits)
      else (none, { limits with characterData := next })
  else if s.test (i + 1) Char.isAlpha then
    if i < limits.declaration then (none, limits)
    else
      match s.find? '>' (i + 2) with
      | some j => (some (j + 1), limits)
      | none => (none, { limits with declaration := s.stop })
  else (none, limits)

/-! ## Blocks of raw HTML -/

/-- What ends a block of raw HTML: a text on one of its lines, or a blank line. -/
inductive RawEnd
  | text (word : List Char)
  | blankLine

/-- The elements whose content is raw up to their end tag, with that end tag. -/
def rawElements : List (List Char × List Char) :=
  [("pre".toList, "</pre>".toList), ("style".toList, "</style>".toList),
    ("script".toList, "</script>".toList), ("textarea".toList, "</textarea>".toList)]

/-- The elements whose tags start a block of raw HTML. -/
def blockElements : List String :=
  ["address", "article", "aside", "base", "basefont", "blockquote", "body", "caption", "center",
    "col", "colgroup", "dd", "details", "dialog", "dir", "div", "dl", "dt", "fieldset",
    "figcaption", "figure", "footer", "form", "frame", "frameset", "h1", "h2", "h3", "h4", "h5",
    "h6", "head", "header", "hr", "html", "iframe", "legend", "li", "link", "main", "menu",
    "menuitem", "nav", "noframes", "ol", "optgroup", "option", "p", "param", "search", "section",
    "summary", "table", "tbody", "td", "tfoot", "th", "thead", "title", "tr", "track", "ul"]

/-- Whether the text at `i` reads `word`, letter case aside. -/
def hasWordIgnoringCase (s : Source) (i : Nat) : List Char → Bool
  | [] => true
  | c :: rest => s.test i (·.toLower == c) && hasWordIgnoringCase s (i + 1) rest

/-- Whether the name of an element with raw content may end at `i`. -/
def endsRawName (s : Source) (i : Nat) : Bool :=
  s.stop ≤ i || s.test i fun c => Source.isWhite c || c == '>'

/-- Whether the name of a block element may end at `i`. -/
def endsBlockName (s : Source) (i : Nat) : Bool :=
  s.stop ≤ i || s.hasWord i "/>".toList ||
    s.test i fun c => c == ' ' || c == '\t' || c == '>' || Source.isLineEnd c

/-- The text that ends the block of raw HTML whose `<` stands at `i`, if it is of
a form that a certain text ends. -/
def rawEndText? (s : Source) (i : Nat) : Option (List Char) :=
  match rawElements.find? fun (name, _) =>
      hasWordIgnoringCase s (i + 1) name && endsRawName s (i + 1 + name.length) with
  | some (_, last) => some last
  | none =>
    if s.hasWord (i + 1) "!--".toList then some "-->".toList
    else if s.has (i + 1) '?' then some "?>".toList
    else if s.hasWord (i + 1) "![CDATA[".toList then some "]]>".toList
    else if s.has (i + 1) '!' && s.test (i + 2) Char.isAlpha then some ">".toList
    else none

/-- Whether the tag of a block element starts with the `<` at `i`. -/
def startsBlockElement (s : Source) (i : Nat) : Bool :=
  let name := if s.has (i + 1) '/' then i + 2 else i + 1
  let last := s.skipWhile Char.isAlphanum name
  last - name ≤ 10 && blockElements.contains ((s.slice name last).map Char.toLower) &&
    endsBlockName s last

/-- What ends the block of raw HTML that starts at `i`, if one does. Only the
forms that `interrupting` asks for may end a paragraph. -/
def rawBlock? (s : Source) (interrupting : Bool) (i : Nat) : Option RawEnd :=
  if s.has i '<' then
    match rawEndText? s i with
    | some word => some (.text word)
    | none =>
      if startsBlockElement s i then some .blankLine
      else if interrupting then none
      else
        match tag? s none i with
        | some (next, _) => if s.isBlankLine next then some .blankLine else none
        | none => none
  else none

end MarkView.Markdown
