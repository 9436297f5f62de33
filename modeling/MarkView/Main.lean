import MarkView.Command.Run
/-!
# The program

The outer layer of the command line: it finds out what the program's arguments make it
look at, hands that over, and writes what comes back. While a file is watched, its
directory is looked at again and again until the program is interrupted.
-/

namespace MarkView.Command

/-- The place that a path names, from a working directory, whether or not it exists. -/
def placeOf (here : Location) (path : String) : Location :=
  (path.splitOn "/").foldl
    (fun place part =>
      if part = "" ∨ part = "." then place
      else if part = ".." then place.tail
      else part :: place)
    (if path.startsWith "/" then [] else here)

/-- What stands at a place. -/
def entryAt (place : Location) : IO (Option Entry) := do
  try
    let path ← IO.FS.realPath place.text
    if ← path.isDir then return some .directory
    return some (.file (← IO.FS.readBinFile path))
  catch _ => return none

/-- Take over what stands at the place of a path and at those above it. -/
def lookUp (here : Location) (files : FileTable) (path : String) : IO FileTable := do
  let parts := path.splitOn "/"
  let mut files := files
  for n in List.range (parts.length + 1) do
    for place in (placeOf here (String.intercalate "/" (parts.take n))).upward do
      if let some entry ← entryAt place then
        files := files.put place entry
  return files

/-- All of the standard input. -/
partial def readAll (stream : IO.FS.Stream) (content : ByteArray) : IO ByteArray := do
  let more ← stream.read 65536
  if more.isEmpty then return content
  readAll stream (content ++ more)

/-- What a request makes the program find around it. -/
def gather (request : Option Request) : IO Environment := do
  let here := placeOf [] (← IO.currentDir).toString
  match request with
  | none => return { here }
  | some request =>
    let files ← (request.lookups here).foldlM (lookUp here) {}
    let input ← if request.readsInput then readAll (← IO.getStdin) .empty else pure .empty
    return { files, here, input }

/-- Write what a run has to say. -/
def emit (output errors : String) : IO Unit := do
  (← IO.getStderr).putStr errors
  (← IO.getStdout).putStr output
  (← IO.getStdout).flush

/-- The content of a file entry. -/
def contentOf : Option Entry → Option ByteArray
  | some (.file content) => some content
  | _ => none

/-- Keep looking at the watched file, and pass on what its changes lead to. -/
partial def watchFile (run : WatchRun) : IO Unit := do
  emit run.output run.errors
  let run := run.flushed
  IO.sleep 50
  let place := run.session.watcher.place
  let before := contentOf (run.session.files.find? place)
  let after := contentOf (← entryAt place)
  match before, after with
  | some _, none => watchFile (run.step (.change (.remove place)))
  | none, some content => watchFile (run.step (.change (.create place content)))
  | some old, some new =>
    if old == new then watchFile run
    else watchFile (run.step (.change (.write place new)))
  | none, none => watchFile run

end MarkView.Command

/-- Run the program. -/
def main (arguments : List String) : IO UInt32 := do
  let environment ← MarkView.Command.gather (MarkView.Command.Request.ofArguments? arguments)
  match MarkView.Command.launch environment arguments with
  | .done outcome =>
    MarkView.Command.emit outcome.output outcome.errors
    return outcome.code.toUInt32
  | .watching run =>
    MarkView.Command.watchFile run
    return 0
