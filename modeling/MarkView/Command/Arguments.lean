import MarkView.Config.Settings
/-!
# Arguments

What a command line asks for. Arguments are read from the left, and the first of them
that is wrong, or that asks for help, decides. An option with a value takes it after an
equals sign, or from the next argument unless that looks like an option itself. After
`--` there are no more options.
-/

namespace MarkView.Command

/-- What is asked of `render`. Without a file, or with `-`, the standard input is read. -/
structure RenderRequest where
  file : Option String := none
  config : Option String := none
  view : Option ViewMode := none
  json : Bool := false
  noGfm : Bool := false
  deriving DecidableEq, Repr, Inhabited

/-- What is asked of `watch`. -/
structure WatchRequest where
  file : String
  config : Option String := none
  view : Option ViewMode := none
  debounce : Option Nat := none
  noGfm : Bool := false
  verbose : Bool := false
  deriving DecidableEq, Repr, Inhabited

/-- What help is about. -/
inductive Topic
  | program
  | render
  | watch
  | demo
  | help
  deriving DecidableEq, Repr, Inhabited

/-- What a command line asks for. -/
inductive Request
  | render (request : RenderRequest)
  | watch (request : WatchRequest)
  | demo (view : ViewMode)
  | help (topic : Topic)
  | version
  deriving DecidableEq, Repr, Inhabited

/-! ## Options -/

/-- An option of a command. -/
inductive Flag
  | config
  | view
  | json
  | debounce
  | noGfm
  | verbose
  deriving DecidableEq, Repr, Inhabited

namespace Flag

/-- The name of an option after two dashes. -/
def long : Flag → String
  | .config => "config"
  | .view => "view"
  | .json => "json"
  | .debounce => "debounce-ms"
  | .noGfm => "no-gfm"
  | .verbose => "verbose"

/-- The letter of an option after one dash. -/
def short? : Flag → Option Char
  | .config => some 'c'
  | .verbose => some 'v'
  | _ => none

/-- Whether an option has a value. -/
def takesValue : Flag → Bool
  | .config => true
  | .view => true
  | .debounce => true
  | _ => false

end Flag

/-- The options of a command, and whether it takes a file. -/
structure Grammar where
  flags : List Flag
  takesFile : Bool
  deriving DecidableEq, Repr, Inhabited

/-- The grammar of `render`. -/
def Grammar.render : Grammar := ⟨[.config, .view, .json, .noGfm], true⟩

/-- The grammar of `watch`. -/
def Grammar.watch : Grammar := ⟨[.config, .view, .debounce, .noGfm, .verbose], true⟩

/-- The grammar of `demo`. -/
def Grammar.demo : Grammar := ⟨[.view], false⟩

/-- Why reading stops before the end: help is asked for, or an argument is wrong. -/
inductive Stop
  | help
  | wrong
  deriving DecidableEq, Repr, Inhabited

/-- What the arguments of a command gave so far. -/
structure Given where
  file : Option String := none
  config : Option String := none
  view : Option ViewMode := none
  debounce : Option Nat := none
  json : Bool := false
  noGfm : Bool := false
  verbose : Bool := false
  deriving DecidableEq, Repr, Inhabited

/-- A whole number of 64 bits in decimal digits, with or without a plus sign. -/
def wordOf? (text : String) : Option Nat :=
  let digits :=
    match text.toList with
    | '+' :: rest => rest
    | cs => cs
  if digits.isEmpty || !digits.all Char.isDigit then none
  else
    let n := digits.foldl (fun n c => 10 * n + (c.toNat - '0'.toNat)) 0
    if n < wordLimit then some n else none

namespace Given

/-- Give a file. A command takes one at most, and its path is not empty. -/
def setFile (given : Given) (grammar : Grammar) (path : String) : Except Stop Given :=
  if !grammar.takesFile || given.file.isSome || path.isEmpty then .error .wrong
  else .ok { given with file := some path }

/-- Give an option without a value, which may be given once. -/
def setFlag (given : Given) : Flag → Except Stop Given
  | .json => if given.json then .error .wrong else .ok { given with json := true }
  | .noGfm => if given.noGfm then .error .wrong else .ok { given with noGfm := true }
  | .verbose => if given.verbose then .error .wrong else .ok { given with verbose := true }
  | _ => .error .wrong

/-- Give an option with its value, which may be given once. -/
def setValue (given : Given) (flag : Flag) (value : String) : Except Stop Given :=
  match flag with
  | .config =>
    if given.config.isSome || value.isEmpty then .error .wrong
    else .ok { given with config := some value }
  | .view =>
    match given.view, ViewMode.parse value with
    | none, .ok mode => .ok { given with view := some mode }
    | _, _ => .error .wrong
  | .debounce =>
    match given.debounce, wordOf? value with
    | none, some n => .ok { given with debounce := some n }
    | _, _ => .error .wrong
  | _ => .error .wrong

end Given

/-! ## Reading -/

/-- An argument that looks like an option. A lone dash does not. -/
def isOptionLike (argument : String) : Bool := argument.startsWith "-" && argument != "-"

/-- The options after one dash, each a letter. One with a value takes the rest of the
argument, or else waits for the next one. -/
def readLetters (grammar : Grammar) (given : Given) :
    List Char → Except Stop (Given × Option Flag)
  | [] => .ok (given, none)
  | letter :: rest =>
    if letter = 'h' then .error .help
    else
      match grammar.flags.find? fun flag => flag.short? = some letter with
      | none => .error .wrong
      | some flag =>
        if flag.takesValue then
          match rest with
          | [] => .ok (given, some flag)
          | '=' :: value => (given.setValue flag (String.ofList value)).map (·, none)
          | value => (given.setValue flag (String.ofList value)).map (·, none)
        else do readLetters grammar (← given.setFlag flag) rest

/-- The option after two dashes, up to an equals sign. One with a value and no equals
sign waits for the next argument. -/
def readLong (grammar : Grammar) (given : Given) (text : List Char) :
    Except Stop (Given × Option Flag) :=
  let name := String.ofList (text.takeWhile (· != '='))
  let value? :=
    match text.dropWhile (· != '=') with
    | _ :: value => some (String.ofList value)
    | [] => none
  if name = "help" then .error (if value?.isNone then .help else .wrong)
  else
    match grammar.flags.find? (·.long = name), value? with
    | none, _ => .error .wrong
    | some flag, some value =>
      if flag.takesValue then (given.setValue flag value).map (·, none) else .error .wrong
    | some flag, none =>
      if flag.takesValue then .ok (given, some flag) else (given.setFlag flag).map (·, none)

/-- The arguments of a command. An option may be waiting for its value. -/
def readArguments (grammar : Grammar) (given : Given) (waiting : Option Flag) :
    List String → Except Stop Given
  | [] =>
    match waiting with
    | some _ => .error .wrong
    | none => .ok given
  | argument :: rest =>
    match waiting with
    | some flag =>
      if isOptionLike argument then .error .wrong
      else do readArguments grammar (← given.setValue flag argument) none rest
    | none =>
      if argument = "--" then rest.foldlM (fun given path => given.setFile grammar path) given
      else do
        let (given, waiting) ←
          match argument.toList with
          | '-' :: '-' :: text => readLong grammar given text
          | '-' :: letter :: letters => readLetters grammar given (letter :: letters)
          | _ => (given.setFile grammar argument).map (·, none)
        readArguments grammar given waiting rest

/-- What a command comes to, once its arguments are read. -/
def finish (topic : Topic) (read : Except Stop Given) (build : Given → Option Request) :
    Option Request :=
  match read with
  | .ok given => build given
  | .error .help => some (.help topic)
  | .error .wrong => none

/-- A view cannot be chosen for a tree that is printed as JSON. -/
def renderRequest? (given : Given) : Option Request :=
  if given.json && given.view.isSome then none
  else
    some (.render
      { file := given.file
        config := given.config
        view := given.view
        json := given.json
        noGfm := given.noGfm })

/-- A file has to be given to be watched. -/
def watchRequest? (given : Given) : Option Request :=
  given.file.map fun file =>
    .watch
      { file
        config := given.config
        view := given.view
        debounce := given.debounce
        noGfm := given.noGfm
        verbose := given.verbose }

/-- What the arguments of the program ask for, unless they are wrong. -/
def Request.ofArguments? : List String → Option Request
  | "render" :: rest => finish .render (readArguments .render {} none rest) renderRequest?
  | "watch" :: rest => finish .watch (readArguments .watch {} none rest) watchRequest?
  | "demo" :: rest =>
    finish .demo (readArguments .demo {} none rest) fun given =>
      some (.demo (given.view.getD .preview))
  | ["help"] => some (.help .program)
  | ["help", "render"] => some (.help .render)
  | ["help", "watch"] => some (.help .watch)
  | ["help", "demo"] => some (.help .demo)
  | ["help", "help"] => some (.help .help)
  | "--help" :: _ => some (.help .program)
  | "--version" :: _ => some .version
  | argument :: _ =>
    match argument.toList with
    | '-' :: 'h' :: _ => some (.help .program)
    | '-' :: 'V' :: _ => some .version
    | _ => none
  | [] => none

end MarkView.Command
