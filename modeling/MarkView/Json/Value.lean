/-!
# JSON

Values, with the fields of an object in the order in which they are written, and
their text: each item and field on a line of its own, indented by two spaces for
each level.
-/

namespace MarkView

/-- A JSON value whose numbers are natural. -/
inductive Json
  | null
  | bool (value : Bool)
  | number (value : Nat)
  | string (value : String)
  | array (items : List Json)
  | object (fields : List (String × Json))
  deriving Inhabited

namespace Json

/-- The value of a field of an object. -/
def field? (name : String) : Json → Option Json
  | object fields => fields.lookup name
  | _ => none

/-- The string or nothing that a value is. -/
def ofOptional : Option String → Json
  | some s => string s
  | none => null

/-! ## Text -/

/-- A hexadecimal digit of a value below sixteen, in small letters. -/
def hexDigit (n : Nat) : Char := Nat.digitChar n

/-- The text of a character inside a string. -/
def escapeChar (c : Char) : List Char :=
  if c = '"' then ['\\', '"']
  else if c = '\\' then ['\\', '\\']
  else if c = '\x08' then ['\\', 'b']
  else if c = '\x0c' then ['\\', 'f']
  else if c = '\n' then ['\\', 'n']
  else if c = '\r' then ['\\', 'r']
  else if c = '\t' then ['\\', 't']
  else if c.toNat < 0x20 then
    ['\\', 'u', '0', '0', hexDigit (c.toNat / 16), hexDigit (c.toNat % 16)]
  else [c]

/-- The text of a string. -/
def quote (s : String) : String :=
  String.ofList ('"' :: s.toList.flatMap escapeChar ++ ['"'])

/-- The text of a number. -/
def digits (n : Nat) : String := String.ofList (Nat.toDigits 10 n)

/-- A new line at a level of indentation. -/
def newLine (level : Nat) : String := String.ofList ('\n' :: List.replicate (2 * level) ' ')

mutual

/-- The text of a value that stands at a level of indentation. -/
def pretty (level : Nat) : Json → String
  | null => "null"
  | bool true => "true"
  | bool false => "false"
  | number n => digits n
  | string s => quote s
  | array [] => "[]"
  | array (item :: rest) =>
    "[" ++ newLine (level + 1) ++ pretty (level + 1) item ++ prettyItems (level + 1) rest ++
      newLine level ++ "]"
  | object [] => "\x7b\x7d"
  | object ((name, value) :: rest) =>
    "\x7b" ++ newLine (level + 1) ++ quote name ++ ": " ++ pretty (level + 1) value ++
      prettyFields (level + 1) rest ++ newLine level ++ "\x7d"

/-- The text of the further items of an array. -/
def prettyItems (level : Nat) : List Json → String
  | [] => ""
  | item :: rest => "," ++ newLine level ++ pretty level item ++ prettyItems level rest

/-- The text of the further fields of an object. -/
def prettyFields (level : Nat) : List (String × Json) → String
  | [] => ""
  | (name, value) :: rest =>
    "," ++ newLine level ++ quote name ++ ": " ++ pretty level value ++ prettyFields level rest

end

/-- The text of a value. -/
def text (value : Json) : String := value.pretty 0

end Json

end MarkView
