import MarkView.Config.Settings
import MarkView.Toml.Document
/-!
# Settings in a document

How a TOML document sets the settings: `gfm` in the section `render`, and `view` and
`debounce_ms` in the section `preview`. Names that are not known are passed over.
-/

namespace MarkView.Overrides

open Toml

/-- A truth value. -/
def flagOf (name : String) : Value → Except Fault Bool
  | .boolean b => .ok b
  | _ => .error (.wrongType name)

/-- A number of milliseconds within 64 bits. -/
def millisecondsOf (name : String) : Value → Except Fault Nat
  | .integer n => if 0 ≤ n ∧ n.toNat < wordLimit then .ok n.toNat else .error (.wrongType name)
  | _ => .error (.wrongType name)

/-- Whether a value holds nothing. -/
def isVoid : Value → Bool
  | .array items => items.isEmpty
  | .tables items => items.isEmpty
  | .table _ entries => entries.isEmpty
  | _ => false

/-- A view: its name, or a table whose only key is its name and holds nothing. -/
def viewOf (name : String) : Value → Except Fault ViewMode
  | .string text =>
    match ViewMode.ofName? text with
    | some mode => .ok mode
    | none => .error (.wrongType name)
  | .table _ [(key, inner)] =>
    match ViewMode.ofName? key with
    | some mode => if isVoid inner then .ok mode else .error (.wrongType name)
    | none => .error (.wrongType name)
  | _ => .error (.wrongType name)

/-- The values that a section gives to the settings of it, in their order. A section is
a table, or the list of the first of its values. A date is a section that sets nothing. -/
def sectionOf (name : String) (settings : List String) :
    Value → Except Fault (List (Option Value))
  | .table _ entries =>
    if Value.entriesSound (entries.filter fun e => !settings.contains e.1) then
      .ok (settings.map fun key => entries.lookup key)
    else .error .tooLarge
  | .array items => .ok (settings.zipIdx.map fun (_, i) => items[i]?)
  | .tables items => .ok (settings.zipIdx.map fun (_, i) => items[i]?)
  | .date => .ok (settings.map fun _ => none)
  | _ => .error (.wrongType name)

/-- Read a value if there is one. -/
def optional {α : Type} (read : Value → Except Fault α) : Option Value → Except Fault (Option α)
  | none => .ok none
  | some value => (read value).map some

/-- The settings of a document. -/
def ofDocument (document : Value) : Except Fault Overrides := do
  match ← sectionOf "document" ["render", "preview"] document with
  | [renderPart, previewPart] =>
    let gfm ←
      match ← optional (sectionOf "render" ["gfm"]) renderPart with
      | some [flag] => optional (flagOf "gfm") flag
      | _ => .ok none
    let (view, debounce) ←
      match ← optional (sectionOf "preview" ["view", "debounce_ms"]) previewPart with
      | some [mode, milliseconds] => do
        let view ← optional (viewOf "view") mode
        let debounce ← optional (millisecondsOf "debounce_ms") milliseconds
        pure (view, debounce)
      | _ => .ok (none, none)
    return { gfm, view, debounce }
  | _ => .error (.wrongType "document")

/-- The settings that a text sets. -/
def parse (text : String) : Except Fault Overrides := do ofDocument (← Toml.parse text)

end MarkView.Overrides
