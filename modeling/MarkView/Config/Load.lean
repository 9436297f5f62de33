import MarkView.Config.Settings
/-!
# Loading a configuration

Which file the settings are taken from, and in which order they are checked. An
explicit file has to exist; without one, the nearest directory on the way up from the
working directory that has an entry of the usual name decides. The file's settings are
checked before the overrides of the command line are applied, and again after them.
-/

namespace MarkView

/-- The settings, and the path of the file that they were taken from. -/
structure Config where
  settings : Settings := {}
  source : Option String := none
  deriving DecidableEq, Repr, Inhabited

namespace Config

/-- The name of a configuration file. -/
def fileName : String := "mdstyle.toml"

/-- The configuration file in the nearest directory that has one, from a directory up
to the root. -/
def discover (present : Location → Bool) (start : Location) : Option Location :=
  if present (fileName :: start) then some (fileName :: start)
  else
    match start with
    | [] => none
    | _ :: above => discover present above

/-- The settings of a file, over the usual ones. -/
def ofFile (readSettings : String → Except Toml.Fault Overrides) (path : String)
    (content : Except FileError String) : Except ConfigError Config :=
  match content with
  | .error cause => .error (.io cause)
  | .ok text =>
    match readSettings text with
    | .error fault => .error (.parse fault)
    | .ok overrides => do
      let settings := Settings.apply {} overrides
      settings.validate
      return { settings, source := some path }

/-- The configuration of the file with a path if one is given, else of the nearest one,
else the usual one. -/
def ofFiles (readSettings : String → Except Toml.Fault Overrides) (files : FileTable)
    (here : Location) (explicit : Option String) : Except ConfigError Config :=
  match explicit with
  | some path =>
    if files.leads here path then ofFile readSettings path (files.read here path)
    else .error (.notFound path)
  | none =>
    match discover (fun place => (files.find? place).isSome) here with
    | some place => ofFile readSettings place.text (files.textAt place)
    | none => .ok {}

/-- The configuration from a working directory. -/
def load (readSettings : String → Except Toml.Fault Overrides) (files : FileTable)
    (here : Location) (explicit : Option String) (overrides : Option Overrides) :
    Except ConfigError Config := do
  let config ← ofFiles readSettings files here explicit
  match overrides with
  | none => return config
  | some overrides =>
    let settings := config.settings.apply overrides
    settings.validate
    return { config with settings }

end Config

end MarkView
