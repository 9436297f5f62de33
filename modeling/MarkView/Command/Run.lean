import MarkView.Command.Help
import MarkView.Config.Document
import MarkView.Config.Load
import MarkView.Demo
import MarkView.Json.Tree
import MarkView.Preview.ViewState
import MarkView.Preview.WatchSession
/-!
# Running a command

What the program prints and how it ends, as a function of its arguments, the files it
sees and its standard input. Views go to the output, all that is said about them to the
error output.
-/

namespace MarkView.Command

/-- What the program finds around it. -/
structure Environment where
  files : FileTable := {}
  here : Location := []
  input : ByteArray := .empty
  deriving Inhabited

/-- The paths at which a configuration is looked for, from a working directory. -/
def configLookups (here : Location) : Option String → List String
  | some path => [path]
  | none => here.upward.map fun above => Location.text (Config.fileName :: above)

/-- The paths that a request makes the program look at, from a working directory. -/
def Request.lookups (here : Location) : Request → List String
  | .render request =>
    configLookups here request.config ++ (request.file.filter (· != "-")).toList
  | .watch request => configLookups here request.config ++ [request.file]
  | _ => []

/-- Whether a request is for what comes from the standard input. -/
def Request.readsInput : Request → Bool
  | .render request => request.file.getD "-" == "-"
  | _ => false

/-- How the program ends: its exit code and what it wrote. -/
structure Outcome where
  code : Nat := 0
  output : String := ""
  errors : String := ""
  deriving DecidableEq, Repr, Inhabited

/-- Why a command fails. -/
inductive Failure
  | config (cause : ConfigError)
  | io (cause : FileError)
  | watch (cause : WatchError)
  deriving DecidableEq, Repr, Inhabited

/-- The wording of a failure. -/
def Failure.message : Failure → String
  | .config cause => cause.message
  | .io cause => cause.message
  | .watch cause => cause.message

/-- The end of a command that fails. -/
def Failure.outcome (failure : Failure) (errors : String) : Outcome where
  code := 1
  errors := errors ++ "Error: " ++ failure.message ++ "\n"

/-- The configuration for a command. An extension can be switched off, but not on. -/
def configure (environment : Environment) (config : Option String) (noGfm : Bool)
    (view : Option ViewMode) (debounce : Option Nat) : Except Failure Config :=
  (Config.load Overrides.parse environment.files environment.here config
    (some { gfm := if noGfm then some false else none, view, debounce })).mapError .config

/-! ## Rendering once -/

/-- The text to render. -/
def readInput (environment : Environment) (file : Option String) : Except FileError String :=
  let path := file.getD "-"
  if path = "-" then
    match String.fromUTF8? environment.input with
    | some text => .ok text
    | none => .error .notText
  else environment.files.read environment.here path

/-- What `render` prints. -/
def render (environment : Environment) (request : RenderRequest) : Except Failure String := do
  let config ← configure environment request.config request.noGfm request.view none
  let text ← (readInput environment request.file).mapError .io
  let state : ViewState := { pipeline := config.settings.pipeline, active := config.settings.view }
  let state := (state.edit text).2
  return if request.json then state.snapshot.tree.toJson.text ++ "\n" else state.visible.printed

/-- What `demo` prints. -/
def demo (view : ViewMode) : String :=
  let state : ViewState := { active := view }
  (state.edit demoMarkdown).2.visible.printed

/-! ## Watching -/

/-- A running `watch`: its session, the view it prints, the revision it printed last, and
what it wrote so far. -/
structure WatchRun where
  session : WatchSession
  view : ViewMode
  shown : Nat := 0
  output : String := ""
  errors : String := ""
  deriving Inhabited

namespace WatchRun

/-- Print the snapshot published last, if it is not printed yet. -/
def announce (run : WatchRun) : WatchRun :=
  let latest := run.session.live.latest
  if latest.revision = run.shown then run
  else
    { run with
      shown := latest.revision
      output := run.output ++ (latest.view run.view).printed
      errors := run.errors ++ "-- revision " ++ toString latest.revision ++ " --\n" }

/-- The run with nothing written that is not passed on already. -/
def flushed (run : WatchRun) : WatchRun := { run with output := "", errors := "" }

/-- One step of the session, and what it prints. -/
def step (run : WatchRun) (step : WatchStep) : WatchRun :=
  { run with session := run.session.step step }.announce

/-- The end of the run, when it is interrupted. -/
def finish (run : WatchRun) : Outcome where
  output := run.output
  errors := run.errors ++ "Stopped\n"

end WatchRun

/-- What a command comes to: it is done at once, or it goes on watching. -/
inductive Launch
  | done (outcome : Outcome)
  | watching (run : WatchRun)
  deriving Inhabited

/-- Start `watch`. -/
def watch (environment : Environment) (request : WatchRequest) : Launch :=
  match configure environment request.config request.noGfm request.view request.debounce with
  | .error failure => .done (failure.outcome "")
  | .ok config =>
    let errors :=
      match config.source with
      | some path => "Using config " ++ path ++ "\n"
      | none => ""
    match WatchSession.start config.settings.pipeline environment.files environment.here
        request.file config.settings.debounce with
    | .error cause => .done ((Failure.watch cause).outcome errors)
    | .ok session =>
      .watching <| WatchRun.announce
        { session
          view := config.settings.view
          errors :=
            errors ++ "Watching " ++ session.watcher.place.text ++ "\nPress Ctrl-C to stop\n" }

/-! ## All commands -/

/-- How the program ends when its arguments are wrong. -/
def misuse : Outcome where
  code := 2
  errors := "error: invalid arguments\n\nFor more information, try '--help'.\n"

/-- What the arguments of the program come to. -/
def launch (environment : Environment) (arguments : List String) : Launch :=
  match Request.ofArguments? arguments with
  | none => .done misuse
  | some .version => .done { output := versionText }
  | some (.help topic) => .done { output := topic.text }
  | some (.demo view) => .done { output := demo view }
  | some (.render request) =>
    match render environment request with
    | .ok output => .done { output }
    | .error failure => .done (failure.outcome "")
  | some (.watch request) => watch environment request

/-- How the program ends if it is interrupted after some steps, should it still watch. -/
def run (environment : Environment) (arguments : List String) (steps : List WatchStep) : Outcome :=
  match launch environment arguments with
  | .done outcome => outcome
  | .watching run => (steps.foldl WatchRun.step run).finish

end MarkView.Command
