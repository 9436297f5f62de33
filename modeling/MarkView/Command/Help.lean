import MarkView.Command.Arguments
/-!
# Help

What the program says about itself and its commands.
-/

namespace MarkView.Command

/-- The name of the program. -/
def programName : String := "mdstyle"

/-- The version that the program names. -/
def versionText : String := programName ++ " 0.1.0\n"

/-- Lines of two columns. The second column starts two blanks after the longest entry
of the first. -/
def columns (rows : List (String × String)) : String :=
  let width := (rows.map fun row => row.1.length).foldl max 0
  String.join <| rows.map fun (left, right) =>
    "  " ++ left ++ String.ofList (List.replicate (width - left.length + 2) ' ') ++ right ++ "\n"

/-- The purpose, the usage, and the sections of a help text. -/
def helpText (purpose usage : String) (sections : List (String × List (String × String))) :
    String :=
  purpose ++ "\n\nUsage: " ++ programName ++ usage ++ "\n" ++
    String.join (sections.map fun (title, rows) => "\n" ++ title ++ ":\n" ++ columns rows)

/-- What the program and its commands are for. -/
def Topic.purpose : Topic → String
  | .program => "Markdown to styled HTML - CLI"
  | .render => "Render a Markdown file (or stdin) once"
  | .watch => "Watch a Markdown file and re-render on change"
  | .demo => "Render the built-in sample document"
  | .help => "Print this message or the help of the given subcommand(s)"

/-- How an option is shown in a list. -/
def Flag.entry : Flag → String × String
  | .config =>
    ("-c, --config <CONFIG>", "Path to configuration file (default: auto-discover mdstyle.toml)")
  | .view =>
    ("    --view <VIEW>", "View to print: \x60preview\x60 (styled outline) or \x60code\x60 (HTML)")
  | .json => ("    --json", "Print the styled tree as JSON")
  | .debounce =>
    ("    --debounce-ms <DEBOUNCE_MS>",
      "Debounce for file change events in milliseconds (overrides config)")
  | .noGfm => ("    --no-gfm", "Disable GitHub Flavored Markdown extensions")
  | .verbose => ("-v, --verbose", "Enable verbose output (render and file watcher logs)")

/-- The entry of the option that asks for help. -/
def helpEntry : String × String := ("-h, --help", "Print help")

/-- The help on a topic. -/
def Topic.text (topic : Topic) : String :=
  match topic with
  | .program =>
    helpText topic.purpose " <COMMAND>"
      [("Commands",
          [("render", Topic.render.purpose), ("watch", Topic.watch.purpose),
            ("demo", Topic.demo.purpose), ("help", Topic.help.purpose)]),
        ("Options", [helpEntry, ("-V, --version", "Print version")])]
  | .render =>
    helpText topic.purpose " render [OPTIONS] [FILE]"
      [("Arguments", [("[FILE]", "Markdown file to render (default: stdin)")]),
        ("Options", Grammar.render.flags.map Flag.entry ++ [helpEntry])]
  | .watch =>
    helpText topic.purpose " watch [OPTIONS] <FILE>"
      [("Arguments", [("<FILE>", "Markdown file to watch")]),
        ("Options", Grammar.watch.flags.map Flag.entry ++ [helpEntry])]
  | .demo =>
    helpText topic.purpose " demo [OPTIONS]"
      [("Options",
          [(Flag.view.entry.1, Flag.view.entry.2 ++ " [default: preview]"), helpEntry])]
  | .help =>
    helpText topic.purpose " help [COMMAND]..."
      [("Arguments", [("[COMMAND]...", "Print help for the subcommand(s)")])]

end MarkView.Command
