import MarkView.Files.Table
import MarkView.Preview.Debounce
import MarkView.Preview.Live
/-!
# Watching a file

A watcher feeds a live preview with the text of a file each time that it changes. It
starts in steps, between which the file may change: it reads the text, submits it, and
only then asks to be told of changes in the directory of the file. From then on the
changes of the file are gathered, and once they are ready the file is read again. Its
text is submitted if it differs from the one submitted last.
-/

namespace MarkView

/-- Why a file cannot be watched. -/
inductive WatchError
  | read (path : String) (cause : FileError)
  | noParent (path : String)
  deriving DecidableEq, Repr, Inhabited

/-- The wording of an error. -/
def WatchError.message : WatchError → String
  | .read path cause => "Failed to read " ++ path ++ ": " ++ cause.message
  | .noParent path => "Cannot watch " ++ path ++ ": no parent directory"

/-- What a system tells of a change: its kind, and the places that it touched. -/
structure FileEvent where
  kind : ChangeKind
  places : List Location
  deriving DecidableEq, Repr, Inhabited

/-- A change of a file tree. -/
inductive FileChange
  | create (place : Location) (content : ByteArray)
  | write (place : Location) (content : ByteArray)
  | moveOver (place : Location) (content : ByteArray)
  | remove (place : Location)
  deriving Inhabited

namespace FileChange

/-- The place that changes. -/
def place : FileChange → Location
  | .create place _ => place
  | .write place _ => place
  | .moveOver place _ => place
  | .remove place => place

/-- The file tree after a change. -/
def apply (files : FileTable) : FileChange → FileTable
  | .create place content => files.addFile place content
  | .write place content => files.addFile place content
  | .moveOver place content => files.addFile place content
  | .remove place => files.erase place

/-- How a change is told. A file that is moved over another, or to a place where there
was none, is told as a modification of the place. -/
def event : FileChange → FileEvent
  | .create place _ => ⟨.created, [place]⟩
  | .write place _ => ⟨.modified, [place]⟩
  | .moveOver place _ => ⟨.modified, [place]⟩
  | .remove place => ⟨.removed, [place]⟩

end FileChange

/-- How far a watcher is. While it watches it keeps the text submitted last. -/
inductive WatchStage
  | opened (text : String)
  | submitted (text : String)
  | watching (debouncer : Debouncer) (last : String)
  | stopped
  deriving DecidableEq, Repr, Inhabited

/-- A watcher of the file at a place. -/
structure Watcher where
  place : Location
  window : Nat
  stage : WatchStage
  deriving DecidableEq, Repr, Inhabited

namespace Watcher

/-- Find a file and read its text. -/
def openFile (files : FileTable) (here : Location) (path : String) (window : Nat) :
    Except WatchError Watcher :=
  match files.resolve here path with
  | .error cause => .error (.read path cause)
  | .ok [] => .error (.noParent (Location.text []))
  | .ok place =>
    match files.textAt place with
    | .error cause => .error (.read place.text cause)
    | .ok text => .ok ⟨place, window, .opened text⟩

/-- Submit the text that was read first. -/
def submitFirst (watcher : Watcher) (live : Live) : Watcher × Live :=
  match watcher.stage with
  | .opened text => ({ watcher with stage := .submitted text }, (live.submit text).2)
  | _ => (watcher, live)

/-- Be told of changes from now on. -/
def register (watcher : Watcher) : Watcher :=
  match watcher.stage with
  | .submitted text => { watcher with stage := .watching ⟨watcher.window, none⟩ text }
  | _ => watcher

/-- All steps of starting, one after the other. -/
def start (files : FileTable) (here : Location) (path : String) (window : Nat) (live : Live) :
    Except WatchError (Watcher × Live) := do
  let watcher ← openFile files here path window
  let (watcher, live) := watcher.submitFirst live
  return (watcher.register, live)

/-- Take in an event. What does not touch the file is passed over. -/
def record (watcher : Watcher) (now : Nat) (event : FileEvent) : Watcher :=
  match watcher.stage with
  | .watching debouncer last =>
    if watcher.place ∈ event.places then
      { watcher with stage := .watching (debouncer.record now event.kind) last }
    else watcher
  | _ => watcher

/-- The text that a ready change calls for, if it is not the one submitted last. A file
that is removed or cannot be read calls for none. -/
def newText? (files : FileTable) (place : Location) (kind : ChangeKind) (last : String) :
    Option String :=
  if kind = .removed then none
  else
    match files.textAt place with
    | .ok text => if text = last then none else some text
    | .error _ => none

/-- Look for a change that is ready, and submit the text that it calls for. -/
def poll (watcher : Watcher) (now : Nat) (files : FileTable) (live : Live) : Watcher × Live :=
  match watcher.stage with
  | .watching debouncer last =>
    match debouncer.takeReady now with
    | (none, debouncer) => ({ watcher with stage := .watching debouncer last }, live)
    | (some kind, debouncer) =>
      match newText? files watcher.place kind last with
      | none => ({ watcher with stage := .watching debouncer last }, live)
      | some text => ({ watcher with stage := .watching debouncer text }, (live.submit text).2)
  | _ => (watcher, live)

/-- Stop watching. -/
def stop (watcher : Watcher) : Watcher := { watcher with stage := .stopped }

end Watcher

/-- What a watcher is known by, and what it feeds: the path that it was given, until it has started
and goes by the path of the file, and the live preview. -/
structure WatchHandle where
  path : String
  live : Live
  deriving Inhabited

namespace WatchHandle

/-- Go on once the text is read: submit it, be told of changes, and go by the path of the file. -/
def proceed (opened : Watcher) : StateM WatchHandle Watcher := do
  let (submitted, live) := opened.submitFirst (← get).live
  modify fun handle => { handle with live }
  let watcher := submitted.register
  modify fun handle => { handle with path := watcher.place.text }
  return watcher

/-- Start, one effect after the other. What was done before an error stays done. -/
def start (files : FileTable) (here : Location) (window : Nat) :
    ExceptT WatchError (StateM WatchHandle) Watcher := do
  let opened ← ExceptT.mk (pure (Watcher.openFile files here (← get).path window))
  proceed opened

end WatchHandle

end MarkView
