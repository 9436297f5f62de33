import MarkView.Toml.Fault
/-!
# Lexemes of TOML

A document as a list of lexemes. What a bare run of characters means depends on
where it stands, so it stays a `word` here. Comments are dropped, and a line break
is one character however it was written.
-/

namespace MarkView.Toml

/-- A lexeme. A `string` stands on one line, a `block` may span several. -/
inductive Lexeme
  | newLine
  | blank (text : String)
  | dot
  | equals
  | comma
  | openBracket
  | closeBracket
  | openBrace
  | closeBrace
  | string (content : String)
  | block (content : String)
  | word (text : String)
  deriving DecidableEq, Repr, Inhabited

/-- What a lexeme is called in a fault. -/
def Lexeme.describe : Lexeme → String
  | .newLine => "end of line"
  | .blank _ => "blank"
  | .dot => "."
  | .equals => "="
  | .comma => ","
  | .openBracket => "["
  | .closeBracket => "]"
  | .openBrace => "opening brace"
  | .closeBrace => "closing brace"
  | .string _ => "string"
  | .block _ => "string"
  | .word text => text

/-! ## Characters -/

/-- A space or a tab. -/
def isBlank (c : Char) : Bool := c == ' ' || c == '\t'

/-- A control character other than the tab. -/
def isControl (c : Char) : Bool := (c.toNat < 0x20 && c != '\t') || c.toNat == 0x7F

/-- A character that may stand in a word: not a blank, a line break, the start of a
comment, a mark or a quote. -/
def isWordChar (c : Char) : Bool :=
  !(isBlank c || c == '\n' || c == '#' || c == '.' || c == '=' || c == ',' || c == '[' ||
    c == ']' || c == '\x7b' || c == '\x7d' || c == '"' || c == '\'')

/-- Write each line break as one character. -/
def joinLineBreaks : List Char → List Char
  | '\r' :: '\n' :: rest => '\n' :: joinLineBreaks rest
  | c :: rest => c :: joinLineBreaks rest
  | [] => []

/-! ## Strings -/

/-- What stands before a closing quote, escapes still as written, and what follows
it. A line break is allowed in a block only. -/
def quoted : List Char → Option (List Char × List Char)
  | '"' :: rest => some ([], rest)
  | '\\' :: c :: rest =>
    if isControl c then none else (quoted rest).map fun (body, after) => ('\\' :: c :: body, after)
  | c :: rest =>
    if isControl c then none else (quoted rest).map fun (body, after) => (c :: body, after)
  | [] => none

/-- What stands before the three closing quotes of a block, escapes still as written,
and what follows. Up to two more quotes before them belong to the block. -/
def quotedBlock : List Char → Option (List Char × List Char)
  | '"' :: '"' :: '"' :: '"' :: '"' :: rest => some (['"', '"'], rest)
  | '"' :: '"' :: '"' :: '"' :: rest => some (['"'], rest)
  | '"' :: '"' :: '"' :: rest => some ([], rest)
  | '\\' :: c :: rest =>
    if isControl c && c != '\n' then none
    else (quotedBlock rest).map fun (body, after) => ('\\' :: c :: body, after)
  | c :: rest =>
    if isControl c && c != '\n' then none
    else (quotedBlock rest).map fun (body, after) => (c :: body, after)
  | [] => none

/-- What stands before a closing apostrophe, and what follows it. -/
def literal : List Char → Option (List Char × List Char)
  | '\'' :: rest => some ([], rest)
  | c :: rest =>
    if isControl c then none else (literal rest).map fun (body, after) => (c :: body, after)
  | [] => none

/-- What stands before the three closing apostrophes of a block, and what follows. Up
to two more apostrophes before them belong to the block. -/
def literalBlock : List Char → Option (List Char × List Char)
  | '\'' :: '\'' :: '\'' :: '\'' :: '\'' :: rest => some (['\'', '\''], rest)
  | '\'' :: '\'' :: '\'' :: '\'' :: rest => some (['\''], rest)
  | '\'' :: '\'' :: '\'' :: rest => some ([], rest)
  | c :: rest =>
    if isControl c && c != '\n' then none
    else (literalBlock rest).map fun (body, after) => (c :: body, after)
  | [] => none

/-- The value of a hexadecimal digit. -/
def hexValue? (c : Char) : Option Nat :=
  if '0' ≤ c ∧ c ≤ '9' then some (c.toNat - '0'.toNat)
  else if 'a' ≤ c ∧ c ≤ 'f' then some (c.toNat - 'a'.toNat + 10)
  else if 'A' ≤ c ∧ c ≤ 'F' then some (c.toNat - 'A'.toNat + 10)
  else none

/-- The character with a code point in hexadecimal. A surrogate is none. -/
def codePoint? (digits : List Char) : Option Char := do
  let n ← digits.foldlM (fun n c => (hexValue? c).map (16 * n + ·)) 0
  if n.isValidChar then some (Char.ofNat n) else none

/-- Where a reader of escapes stands: in text, or in the white space after a backslash
at the end of a line, before or after the end of that line. -/
inductive EscapeMode
  | text
  | beforeBreak
  | afterBreak
  deriving DecidableEq, Repr

/-- Read the escapes of a string. In a block, a backslash at the end of a line takes
away all white space up to the next character. -/
def unescape : EscapeMode → List Char → Option (List Char)
  | .beforeBreak, [] => none
  | _, [] => some []
  | .beforeBreak, c :: rest =>
    if c = '\n' then unescape .afterBreak rest
    else if isBlank c then unescape .beforeBreak rest
    else none
  | _, '\\' :: 'x' :: a :: b :: rest => do
    let c ← codePoint? [a, b]
    return c :: (← unescape .text rest)
  | _, '\\' :: 'u' :: a :: b :: c :: d :: rest => do
    let c ← codePoint? [a, b, c, d]
    return c :: (← unescape .text rest)
  | _, '\\' :: 'U' :: a :: b :: c :: d :: e :: f :: g :: h :: rest => do
    let c ← codePoint? [a, b, c, d, e, f, g, h]
    return c :: (← unescape .text rest)
  | _, '\\' :: c :: rest =>
    match c with
    | 'b' => (unescape .text rest).map ('\x08' :: ·)
    | 't' => (unescape .text rest).map ('\t' :: ·)
    | 'n' => (unescape .text rest).map ('\n' :: ·)
    | 'f' => (unescape .text rest).map ('\x0c' :: ·)
    | 'r' => (unescape .text rest).map ('\r' :: ·)
    | 'e' => (unescape .text rest).map ('\x1b' :: ·)
    | '"' => (unescape .text rest).map ('"' :: ·)
    | '\\' => (unescape .text rest).map ('\\' :: ·)
    | '\n' => unescape .afterBreak rest
    | ' ' => unescape .beforeBreak rest
    | '\t' => unescape .beforeBreak rest
    | _ => none
  | mode, c :: rest =>
    if c = '\\' then none
    else if mode = .afterBreak ∧ (isBlank c ∨ c = '\n') then unescape .afterBreak rest
    else (unescape .text rest).map (c :: ·)

/-- A block without the line break that may stand first in it. -/
def dropFirstBreak : List Char → List Char
  | '\n' :: rest => rest
  | body => body

theorem length_lt_of_quoted {cs body after : List Char} (h : quoted cs = some (body, after)) :
    after.length < cs.length := by
  fun_induction quoted cs generalizing body after <;> grind [Option.map_eq_some_iff]

theorem length_lt_of_quotedBlock {cs body after : List Char}
    (h : quotedBlock cs = some (body, after)) : after.length < cs.length := by
  fun_induction quotedBlock cs generalizing body after <;> grind [Option.map_eq_some_iff]

theorem length_lt_of_literal {cs body after : List Char} (h : literal cs = some (body, after)) :
    after.length < cs.length := by
  fun_induction literal cs generalizing body after <;> grind [Option.map_eq_some_iff]

theorem length_lt_of_literalBlock {cs body after : List Char}
    (h : literalBlock cs = some (body, after)) : after.length < cs.length := by
  fun_induction literalBlock cs generalizing body after <;> grind [Option.map_eq_some_iff]

theorem length_dropWhile_le (p : Char → Bool) (cs : List Char) :
    (cs.dropWhile p).length ≤ cs.length :=
  (List.dropWhile_suffix p).length_le

/-! ## Documents -/

/-- The mark that a character is. -/
def mark? : Char → Option Lexeme
  | '\n' => some .newLine
  | '.' => some .dot
  | '=' => some .equals
  | ',' => some .comma
  | '[' => some .openBracket
  | ']' => some .closeBracket
  | '\x7b' => some .openBrace
  | '\x7d' => some .closeBrace
  | _ => none

/-- The lexemes of a document whose line breaks are joined. -/
def lexemes (cs : List Char) : Except Fault (List Lexeme) :=
  match cs with
  | [] => .ok []
  | '"' :: '"' :: '"' :: rest =>
    match h : quotedBlock rest with
    | none => .error .openString
    | some (body, after) =>
      have : after.length < rest.length := length_lt_of_quotedBlock h
      match unescape .text (dropFirstBreak body) with
      | none => .error .badEscape
      | some content => (lexemes after).map (.block (String.ofList content) :: ·)
  | '\'' :: '\'' :: '\'' :: rest =>
    match h : literalBlock rest with
    | none => .error .openString
    | some (body, after) =>
      have : after.length < rest.length := length_lt_of_literalBlock h
      (lexemes after).map (.block (String.ofList (dropFirstBreak body)) :: ·)
  | '"' :: rest =>
    match h : quoted rest with
    | none => .error .openString
    | some (body, after) =>
      have : after.length < rest.length := length_lt_of_quoted h
      match unescape .text body with
      | none => .error .badEscape
      | some content => (lexemes after).map (.string (String.ofList content) :: ·)
  | '\'' :: rest =>
    match h : literal rest with
    | none => .error .openString
    | some (body, after) =>
      have : after.length < rest.length := length_lt_of_literal h
      (lexemes after).map (.string (String.ofList body) :: ·)
  | '#' :: rest =>
    have := length_dropWhile_le (fun c => !isControl c) rest
    lexemes (rest.dropWhile fun c => !isControl c)
  | c :: rest =>
    match mark? c with
    | some lexeme => (lexemes rest).map (lexeme :: ·)
    | none =>
      if isBlank c then
        have := length_dropWhile_le isBlank rest
        (lexemes (rest.dropWhile isBlank)).map
          (.blank (String.ofList (c :: rest.takeWhile isBlank)) :: ·)
      else
        have := length_dropWhile_le isWordChar rest
        (lexemes (rest.dropWhile isWordChar)).map
          (.word (String.ofList (c :: rest.takeWhile isWordChar)) :: ·)
termination_by cs.length

/-- The lexemes of a text. A mark of byte order at its start is no part of it. -/
def lexemesOf (text : String) : Except Fault (List Lexeme) :=
  match joinLineBreaks text.toList with
  | '\ufeff' :: rest => lexemes rest
  | cs => lexemes cs

end MarkView.Toml
