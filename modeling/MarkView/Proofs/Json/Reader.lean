import MarkView.Json.Value
/-!
# Reading JSON

A reader of JSON that knows nothing of who wrote it, for values whose numbers are natural. It goes
through the text one character at a time (`Lexer.step`): blanks may stand between any two tokens, a
number has no zero in front, and in a string a character stands for itself or is escaped, in one of
the short ways or by its code. The tokens are then put together (`Parser.step`), with the arrays and
objects that are still open on a stack. Whatever is not of that form is refused.
-/

namespace MarkView.Json

/-- What the reader meets. -/
inductive Token
  | openArray
  | closeArray
  | openObject
  | closeObject
  | comma
  | colon
  | null
  | bool (value : Bool)
  | number (value : Nat)
  | string (value : String)
  deriving DecidableEq, Repr

/-! ## Characters to tokens -/

/-- The value of a decimal digit. -/
def digit? (c : Char) : Option Nat := if c.isDigit then some (c.toNat - 48) else none

/-- The value of a hexadecimal digit, in small or in capital letters. -/
def hexDigit? (c : Char) : Option Nat :=
  if c.isDigit then some (c.toNat - 48)
  else if 'a' ≤ c ∧ c ≤ 'f' then some (c.toNat - 87)
  else if 'A' ≤ c ∧ c ≤ 'F' then some (c.toNat - 55)
  else none

/-- The character that one after a backslash stands for. -/
def escaped? : Char → Option Char
  | '"' => some '"'
  | '\\' => some '\\'
  | '/' => some '/'
  | 'b' => some '\x08'
  | 'f' => some '\x0c'
  | 'n' => some '\n'
  | 'r' => some '\r'
  | 't' => some '\t'
  | _ => none

/-- What the reader is in the middle of. The characters of a string are kept latest first. Of a
word the letters are kept that are still to come, and of a code how many digits are to come after
the next one. -/
inductive Mode
  | between
  | number (value : Nat)
  | word (missing : List Char) (token : Token)
  | string (soFar : List Char)
  | escape (soFar : List Char)
  | code (soFar : List Char) (further : Nat) (value : Nat)
  deriving DecidableEq, Repr

/-- The state of the reader, the latest token first. -/
structure Lexer where
  mode : Mode := .between
  tokens : List Token := []
  deriving DecidableEq, Repr

namespace Lexer

/-- A character between two tokens. -/
def stepBetween (tokens : List Token) : Char → Option Lexer
  | ' ' | '\n' | '\r' | '\t' => some ⟨.between, tokens⟩
  | '[' => some ⟨.between, .openArray :: tokens⟩
  | ']' => some ⟨.between, .closeArray :: tokens⟩
  | '\x7b' => some ⟨.between, .openObject :: tokens⟩
  | '\x7d' => some ⟨.between, .closeObject :: tokens⟩
  | ',' => some ⟨.between, .comma :: tokens⟩
  | ':' => some ⟨.between, .colon :: tokens⟩
  | '"' => some ⟨.string [], tokens⟩
  | 'n' => some ⟨.word ['u', 'l', 'l'] .null, tokens⟩
  | 't' => some ⟨.word ['r', 'u', 'e'] (.bool true), tokens⟩
  | 'f' => some ⟨.word ['a', 'l', 's', 'e'] (.bool false), tokens⟩
  | c => (digit? c).map fun digit => ⟨.number digit, tokens⟩

/-- A character of a string, or the end of it. -/
def stepString (tokens : List Token) (soFar : List Char) (c : Char) : Option Lexer :=
  if c = '"' then some ⟨.between, .string (String.ofList soFar.reverse) :: tokens⟩
  else if c = '\\' then some ⟨.escape soFar, tokens⟩
  else if c.toNat < 0x20 then none
  else some ⟨.string (c :: soFar), tokens⟩

/-- One more digit of a code. -/
def stepCode (tokens : List Token) (soFar : List Char) (value : Nat) : Nat → Option Lexer
  | 0 => if value.isValidChar then some ⟨.string (Char.ofNat value :: soFar), tokens⟩ else none
  | further + 1 => some ⟨.code soFar further value, tokens⟩

/-- One character. -/
def step : Lexer → Char → Option Lexer
  | ⟨.between, tokens⟩, c => stepBetween tokens c
  | ⟨.number value, tokens⟩, c =>
    match digit? c with
    | some digit => if value = 0 then none else some ⟨.number (10 * value + digit), tokens⟩
    | none => stepBetween (.number value :: tokens) c
  | ⟨.word missing token, tokens⟩, c =>
    if missing = [c] then some ⟨.between, token :: tokens⟩
    else if missing.head? = some c then some ⟨.word missing.tail token, tokens⟩
    else none
  | ⟨.string soFar, tokens⟩, c => stepString tokens soFar c
  | ⟨.escape soFar, tokens⟩, c =>
    if c = 'u' then some ⟨.code soFar 3 0, tokens⟩
    else (escaped? c).map fun c => ⟨.string (c :: soFar), tokens⟩
  | ⟨.code soFar further value, tokens⟩, c =>
    (hexDigit? c).bind fun digit => stepCode tokens soFar (16 * value + digit) further

/-- The tokens of a text that ends here, which must not be within one. Only a number has no end of
its own. -/
def end? : Lexer → Option (List Token)
  | ⟨.between, tokens⟩ => some tokens
  | ⟨.number value, tokens⟩ => some (.number value :: tokens)
  | _ => none

/-- All characters of a text, and its end. -/
def run : List Char → Lexer → Option (List Token)
  | [], lexer => lexer.end?
  | c :: rest, lexer => (lexer.step c).bind (run rest)

end Lexer

/-- The tokens of a text. -/
def lex (text : String) : Option (List Token) := (Lexer.run text.toList {}).map List.reverse

/-! ## Tokens to values -/

/-- An array or an object that waits for one of its values, with what precedes it, the latest
first. The name of the value is kept apart. -/
inductive Pending
  | array (items : List Json)
  | object (fields : List (String × Json)) (name : String)

/-- What may come next: a value, an item or the end of an array, a field or the end of an object,
the name of a field, a colon after a name, or nothing after the whole value. -/
inductive Expected
  | value
  | item (items : List Json)
  | field (fields : List (String × Json))
  | name (fields : List (String × Json))
  | colon (fields : List (String × Json)) (name : String)
  | nothing (value : Json)

/-- The state of the reader, the innermost of what is open first. -/
structure Parser where
  expected : Expected := .value
  outer : List Pending := []

namespace Parser

/-- A value is complete. -/
def put (value : Json) : List Pending → Parser
  | [] => ⟨.nothing value, []⟩
  | .array items :: outer => ⟨.item (value :: items), outer⟩
  | .object fields name :: outer => ⟨.field ((name, value) :: fields), outer⟩

/-- A token where a value must come. -/
def stepValue (outer : List Pending) : Token → Option Parser
  | .null => some (put .null outer)
  | .bool value => some (put (.bool value) outer)
  | .number value => some (put (.number value) outer)
  | .string value => some (put (.string value) outer)
  | .openArray => some ⟨.item [], outer⟩
  | .openObject => some ⟨.field [], outer⟩
  | _ => none

/-- One token. -/
def step : Parser → Token → Option Parser
  | ⟨.value, outer⟩, token => stepValue outer token
  | ⟨.item items, outer⟩, .closeArray => some (put (.array items.reverse) outer)
  | ⟨.item [], outer⟩, token => stepValue (.array [] :: outer) token
  | ⟨.item items, outer⟩, .comma => some ⟨.value, .array items :: outer⟩
  | ⟨.field fields, outer⟩, .closeObject => some (put (.object fields.reverse) outer)
  | ⟨.field [], outer⟩, .string name => some ⟨.colon [] name, outer⟩
  | ⟨.field (field :: rest), outer⟩, .comma => some ⟨.name (field :: rest), outer⟩
  | ⟨.name fields, outer⟩, .string name => some ⟨.colon fields name, outer⟩
  | ⟨.colon fields name, outer⟩, .colon => some ⟨.value, .object fields name :: outer⟩
  | _, _ => none

/-- All tokens of a text. -/
def run : List Token → Parser → Option Parser
  | [], parser => some parser
  | token :: rest, parser => (parser.step token).bind (run rest)

end Parser

/-- The value that tokens make up. -/
def parse (tokens : List Token) : Option Json :=
  match Parser.run tokens {} with
  | some ⟨.nothing value, _⟩ => some value
  | _ => none

/-- **The value that a text is**, or nothing if it is not well formed. -/
def read? (text : String) : Option Json := (lex text).bind parse

end MarkView.Json
