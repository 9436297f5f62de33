/-!
# Faults

Why a text is no TOML document, or a document not one of settings.
-/

namespace MarkView.Toml

/-- What is wrong with a document. -/
inductive Fault
  | openString
  | openValue
  | badCharacter
  | badEscape
  | badName (name : String)
  | badValue (text : String)
  | misplaced (what : String)
  | repeated (name : String)
  | notTable (name : String)
  | tooDeep
  | tooLarge
  | wrongType (name : String)
  deriving DecidableEq, Repr, Inhabited

/-- The wording of a fault. -/
def Fault.message : Fault → String
  | .openString => "a string is not closed"
  | .openValue => "the document ends within a line"
  | .badCharacter => "a character is not allowed in a string"
  | .badEscape => "an escape in a string is not valid"
  | .badName name => "not a name: " ++ name
  | .badValue text => "not a value: " ++ text
  | .misplaced what => "misplaced " ++ what
  | .repeated name => "defined twice: " ++ name
  | .notTable name => "not a table: " ++ name
  | .tooDeep => "values are nested too deep"
  | .tooLarge => "a number is too large"
  | .wrongType name => "wrong type of value for " ++ name

end MarkView.Toml
