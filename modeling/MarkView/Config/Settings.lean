import MarkView.Files.Table
import MarkView.Render
import MarkView.Text.Space
import MarkView.Toml.Fault
/-!
# Settings

What can be set, what may be left open, and which settings are valid. A setting that
is left open by an `Overrides` stays as it was.
-/

namespace MarkView

/-- The whole numbers of 64 bits are those below this one. -/
def wordLimit : Nat := 18446744073709551616

/-- Which artifact of a rendition is shown: the styled document, or its HTML. -/
inductive ViewMode
  | preview
  | code
  deriving DecidableEq, Repr, Inhabited

/-- The name of a view. -/
def ViewMode.name : ViewMode → String
  | .preview => "preview"
  | .code => "code"

/-- The view with a name. -/
def ViewMode.ofName? : String → Option ViewMode
  | "preview" => some .preview
  | "code" => some .code
  | _ => none

theorem ViewMode.ofName?_name (mode : ViewMode) : ofName? mode.name = some mode := by
  cases mode <;> rfl

/-- The longest time that changes of a file may be gathered for, in milliseconds. -/
def maxDebounce : Nat := 10000

/-- Why settings are not valid. -/
inductive Invalidity
  | unknownView (name : String)
  | longDebounce
  deriving DecidableEq, Repr, Inhabited

/-- The wording of an invalidity. -/
def Invalidity.message : Invalidity → String
  | .unknownView name => "unknown view '" ++ name ++ "', expected 'preview' or 'code'"
  | .longDebounce => "preview.debounce_ms cannot exceed " ++ toString maxDebounce

/-- Why no configuration can be had. -/
inductive ConfigError
  | notFound (path : String)
  | io (cause : FileError)
  | parse (fault : Toml.Fault)
  | validation (cause : Invalidity)
  deriving DecidableEq, Repr, Inhabited

/-- The wording of an error. -/
def ConfigError.message : ConfigError → String
  | .notFound path => "Configuration file not found: " ++ path
  | .io cause => "I/O error: " ++ cause.message
  | .parse fault => "TOML parse error: " ++ fault.message
  | .validation cause => "Configuration error: " ++ cause.message

/-- The view that a text names. White space around the name and the case of its ASCII
letters do not matter. -/
def ViewMode.parse (text : String) : Except ConfigError ViewMode :=
  let name := String.ofList ((Text.trim text.toList).map Char.toLower)
  match ofName? name with
  | some mode => .ok mode
  | none => .error (.validation (.unknownView name))

/-- The settings: whether Markdown is read with its extensions, the view to show first,
and how long changes of a file are gathered, in milliseconds. -/
structure Settings where
  gfm : Bool := true
  view : ViewMode := .preview
  debounce : Nat := 100
  deriving DecidableEq, Repr, Inhabited

/-- Settings each of which may be left open. -/
structure Overrides where
  gfm : Option Bool := none
  view : Option ViewMode := none
  debounce : Option Nat := none
  deriving DecidableEq, Repr, Inhabited

namespace Settings

/-- Settings changed where the overrides say something. -/
def apply (settings : Settings) (overrides : Overrides) : Settings where
  gfm := overrides.gfm.getD settings.gfm
  view := overrides.view.getD settings.view
  debounce := overrides.debounce.getD settings.debounce

/-- Whether the settings are valid. -/
def validate (settings : Settings) : Except ConfigError Unit :=
  if maxDebounce < settings.debounce then .error (.validation .longDebounce) else .ok ()

/-- The pipeline that the settings ask for. -/
def pipeline (settings : Settings) : Pipeline := ⟨settings.gfm⟩

end Settings

end MarkView
