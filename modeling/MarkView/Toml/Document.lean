import MarkView.Toml.Lexeme
import MarkView.Toml.Scalar
/-!
# Documents of TOML

A document is read lexeme by lexeme. The reader keeps the tables read so far, the
header that it stands under, the values that are still open, and what may come next.
-/

namespace MarkView.Toml

/-- A value that is being read, or the line that it is given on. -/
inductive Frame
  | line (key : List String)
  | array (items : List Value)
  | braces (table : Value) (key : List String)
  deriving Inhabited

/-- What may come next. A header is `double` if it opens the next table of a list; a path
holds the names of a key that were read. -/
inductive Expect
  | line
  | lineEnd
  | headerStart
  | headerName (double : Bool) (path : List String)
  | headerNext (double : Bool) (path : List String)
  | headerEnd (path : List String)
  | name (path : List String)
  | nameNext (path : List String)
  | value
  | item
  | itemNext
  | field
  | fieldNext
  | word (text : String)
  | wordNext (text : String)
  deriving Inhabited

/-- The state of the reader. -/
structure Reader where
  document : Value := Value.empty
  header : List String := []
  frames : List Frame := []
  expect : Expect := .line
  deriving Inhabited

/-- How deep arrays and tables between braces may nest. -/
def maxNesting : Nat := 80

namespace Reader

/-- A character of a name without quotes. -/
def isNameChar (c : Char) : Bool := c.isAlphanum || c == '_' || c == '-'

/-- The name that a lexeme is. -/
def name? : Lexeme → Except Fault String
  | .string content => .ok content
  | .word text => if text.toList.all isNameChar then .ok text else .error (.badName text)
  | lexeme => .error (.misplaced lexeme.describe)

/-- A value is complete: it goes to what is open around it. -/
def complete (reader : Reader) (value : Value) : Except Fault Reader :=
  match reader.frames with
  | .line key :: _ => do
    let document ← reader.document.assignUnder reader.header key value
    return { reader with document, frames := [], expect := .lineEnd }
  | .array items :: outer =>
    .ok { reader with frames := .array (value :: items) :: outer, expect := .itemNext }
  | .braces table key :: outer => do
    let table ← table.assign key value
    return { reader with frames := .braces table [] :: outer, expect := .fieldNext }
  | [] => .error .openValue

/-- The value between brackets or braces ends. -/
def close (reader : Reader) : Except Fault Reader :=
  match reader.frames with
  | .array items :: outer => { reader with frames := outer }.complete (.array items.reverse)
  | .braces table _ :: outer => { reader with frames := outer }.complete table.sealed
  | _ => .error .openValue

/-- A value between brackets or braces starts. The line of the value is one frame more. -/
def nest (reader : Reader) (frame : Frame) (expect : Expect) : Except Fault Reader :=
  if maxNesting < reader.frames.length then .error .tooDeep
  else .ok { reader with frames := frame :: reader.frames, expect }

/-- The names of a key are read. -/
def giveKey (reader : Reader) (path : List String) : Except Fault Reader :=
  match reader.frames with
  | [] => .ok { reader with frames := [.line path], expect := .value }
  | .braces table _ :: outer =>
    .ok { reader with frames := .braces table path :: outer, expect := .value }
  | _ => .error (.misplaced "=")

/-- A header is read. -/
def giveHeader (reader : Reader) (double : Bool) (path : List String) : Except Fault Reader := do
  let document ←
    if double then reader.document.openNext path else reader.document.openTable path
  return { reader with document, header := path, expect := .lineEnd }

/-- A value starts with a lexeme. -/
def startValue (reader : Reader) : Lexeme → Except Fault Reader
  | .string content => reader.complete (.string content)
  | .block content => reader.complete (.string content)
  | .openBracket => reader.nest (.array []) .item
  | .openBrace => reader.nest (.braces Value.empty []) .field
  | .word text => .ok { reader with expect := .word text }
  | .dot => .ok { reader with expect := .word "." }
  | lexeme => .error (.misplaced lexeme.describe)

/-- One lexeme, outside a word. -/
def step (reader : Reader) (lexeme : Lexeme) : Except Fault Reader :=
  match reader.expect, lexeme with
  | .headerStart, .openBracket => .ok { reader with expect := .headerName true [] }
  | .headerEnd path, .closeBracket => reader.giveHeader true path
  | .headerEnd _, _ => .error (.misplaced lexeme.describe)
  | .headerStart, .blank _ => .ok { reader with expect := .headerName false [] }
  | _, .blank _ => .ok reader
  | .line, .newLine => .ok reader
  | .line, .openBracket => .ok { reader with expect := .headerStart }
  | .line, _ => do return { reader with expect := .nameNext [← name? lexeme] }
  | .lineEnd, .newLine => .ok { reader with expect := .line }
  | .headerStart, _ => do return { reader with expect := .headerNext false [← name? lexeme] }
  | .headerName double path, _ => do
    return { reader with expect := .headerNext double (path ++ [← name? lexeme]) }
  | .headerNext double path, .dot => .ok { reader with expect := .headerName double path }
  | .headerNext false path, .closeBracket => reader.giveHeader false path
  | .headerNext true path, .closeBracket => .ok { reader with expect := .headerEnd path }
  | .name path, _ => do return { reader with expect := .nameNext (path ++ [← name? lexeme]) }
  | .nameNext path, .dot => .ok { reader with expect := .name path }
  | .nameNext path, .equals => reader.giveKey path
  | .value, _ => reader.startValue lexeme
  | .item, .newLine => .ok reader
  | .item, .closeBracket => reader.close
  | .item, _ => reader.startValue lexeme
  | .itemNext, .newLine => .ok reader
  | .itemNext, .comma => .ok { reader with expect := .item }
  | .itemNext, .closeBracket => reader.close
  | .field, .newLine => .ok reader
  | .field, .closeBrace => reader.close
  | .field, _ => do return { reader with expect := .nameNext [← name? lexeme] }
  | .fieldNext, .newLine => .ok reader
  | .fieldNext, .comma => .ok { reader with expect := .field }
  | .fieldNext, .closeBrace => reader.close
  | _, _ => .error (.misplaced lexeme.describe)

/-- The word that was read is a value. -/
def endWord (reader : Reader) (text : String) : Except Fault Reader :=
  match scalar? text with
  | some value => reader.complete value
  | none => .error (.badValue text)

/-- One lexeme. A bare value may hold dots, and one space between a date and a time. -/
def read (reader : Reader) (lexeme : Lexeme) : Except Fault Reader :=
  match reader.expect, lexeme with
  | .word text, .word more => .ok { reader with expect := .word (text ++ more) }
  | .word text, .dot => .ok { reader with expect := .word (text ++ ".") }
  | .word text, .blank " " =>
    if isDate text.toList then .ok { reader with expect := .wordNext text }
    else reader.endWord text
  | .word text, _ => do (← reader.endWord text).step lexeme
  | .wordNext text, .word more =>
    if (more.toList.head?).any Char.isDigit then
      .ok { reader with expect := .word (text ++ " " ++ more) }
    else .error (.misplaced more)
  | .wordNext text, _ => do (← reader.endWord text).step lexeme
  | _, _ => reader.step lexeme

/-- The document, if it may end here. -/
def finish (reader : Reader) : Except Fault Value := do
  let reader ←
    match reader.expect with
    | .word text => reader.endWord text
    | .wordNext text => reader.endWord text
    | _ => .ok reader
  match reader.expect with
  | .line => .ok reader.document
  | .lineEnd => .ok reader.document
  | _ => .error .openValue

end Reader

/-- The table that a text is. -/
def parse (text : String) : Except Fault Value := do
  let lexemes ← lexemesOf text
  let reader ← lexemes.foldlM Reader.read {}
  reader.finish

end MarkView.Toml
