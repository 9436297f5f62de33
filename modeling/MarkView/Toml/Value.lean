import MarkView.Toml.Fault
/-!
# Values of TOML

The values of a document. A table remembers how it came to be, because that decides
whether later lines may still add to it; of a number with a fraction only its size
matters here, and of a date nothing.
-/

namespace MarkView.Toml

/-- How a table came to be: by a header of its own, as a step on the way to another
header, by a key with dots, or between braces. -/
inductive Origin
  | header
  | passage
  | dotted
  | braces
  deriving DecidableEq, Repr, Inhabited

/-- A value. A list of tables that headers made is apart from a list between brackets,
to which nothing can be added. -/
inductive Value
  | string (content : String)
  | boolean (value : Bool)
  | integer (value : Int)
  | float (tooLarge : Bool)
  | date
  | array (items : List Value)
  | tables (items : List Value)
  | table (origin : Origin) (entries : List (String × Value))
  deriving Inhabited

namespace Value

/-- The table without entries that a header makes. -/
def empty : Value := .table .header []

/-- Put a value in the place of the one with a name. -/
def replaceEntry (entries : List (String × Value)) (name : String) (value : Value) :
    List (String × Value) :=
  entries.map fun (key, old) => if key = name then (key, value) else (key, old)

/-- Change the table that a path leads to from a table. A list of tables is entered at
its last one, and steps that are missing are made with an origin. -/
def alter (missing : Origin) (change : Value → Except Fault Value) :
    List String → Value → Except Fault Value
  | [], here => change here
  | name :: path, .table origin entries =>
    match entries.lookup name with
    | none => do
      let inner ← alter missing change path (.table missing [])
      return .table origin (entries ++ [(name, inner)])
    | some (.table below inside) =>
      if below = .braces ∨ (missing = .dotted ∧ below = .header) then .error (.repeated name)
      else do
        let inner ← alter missing change path (.table below inside)
        return .table origin (replaceEntry entries name inner)
    | some (.tables items) =>
      match items.getLast? with
      | none => .error (.notTable name)
      | some last => do
        let inner ← alter missing change path last
        return .table origin (replaceEntry entries name (.tables (items.dropLast ++ [inner])))
    | some _ => .error (.notTable name)
  | name :: _, _ => .error (.notTable name)

/-- Add an entry to a table. -/
def addEntry (name : String) (value : Value) : Value → Except Fault Value
  | .table origin entries =>
    match entries.lookup name with
    | none => .ok (.table origin (entries ++ [(name, value)]))
    | some _ => .error (.repeated name)
  | _ => .error (.notTable name)

/-- Give a value to the key that a path of names is. A key with dots may only add to
tables that such keys made. -/
def assign (here : Value) (path : List String) (value : Value) : Except Fault Value :=
  let name := path.getLast?.getD ""
  let above := path.dropLast
  alter .dotted
    (fun place =>
      match place with
      | .table origin entries =>
        if (origin = .dotted) ↔ above = [] then .error (.repeated name)
        else addEntry name value (.table origin entries)
      | _ => .error (.notTable name))
    above here

/-- Open the table that a header names. A table may be named by one header only. -/
def openTable (document : Value) (path : List String) : Except Fault Value :=
  let name := path.getLast?.getD ""
  alter .passage
    (fun place =>
      match place with
      | .table origin entries =>
        match entries.lookup name with
        | none => .ok (.table origin (entries ++ [(name, empty)]))
        | some (.table .passage inside) =>
          .ok (.table origin (replaceEntry entries name (.table .header inside)))
        | some _ => .error (.repeated name)
      | _ => .error (.notTable name))
    path.dropLast document

/-- Open one more table of the list that a double header names. -/
def openNext (document : Value) (path : List String) : Except Fault Value :=
  let name := path.getLast?.getD ""
  alter .passage
    (fun place =>
      match place with
      | .table origin entries =>
        match entries.lookup name with
        | none => .ok (.table origin (entries ++ [(name, .tables [empty])]))
        | some (.tables items) =>
          .ok (.table origin (replaceEntry entries name (.tables (items ++ [empty]))))
        | some _ => .error (.repeated name)
      | _ => .error (.notTable name))
    path.dropLast document

/-- Give a value to a key in the table that a header opened. -/
def assignUnder (document : Value) (header path : List String) (value : Value) : Except Fault Value :=
  alter .passage (fun place => place.assign path value) header document

/-- The table between braces with the entries of a table. -/
def sealed : Value → Value
  | .table _ entries => .table .braces entries
  | value => value

mutual

/-- Whether all numbers of a value have a size that can be told: a whole number within
128 bits, and another one within a double. -/
def isSound : Value → Bool
  | .integer n => decide (-2 ^ 127 ≤ n ∧ n < 2 ^ 128)
  | .float tooLarge => !tooLarge
  | .array items => areSound items
  | .tables items => areSound items
  | .table _ entries => entriesSound entries
  | _ => true

/-- Whether all values of a list are sound. -/
def areSound : List Value → Bool
  | [] => true
  | value :: rest => isSound value && areSound rest

/-- Whether all values of a table are sound. -/
def entriesSound : List (String × Value) → Bool
  | [] => true
  | (_, value) :: rest => isSound value && entriesSound rest

end

end Value

end MarkView.Toml
