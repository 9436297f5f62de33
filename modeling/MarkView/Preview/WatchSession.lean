import MarkView.Preview.Watcher
/-!
# Sessions with a watcher

A file tree, a watcher in it and the live preview that it feeds, with a clock. Each
change of the tree is settled before the next: its window passes, the watcher looks
once, and the worker of the preview finishes.
-/

namespace MarkView

/-- What happens in a session. -/
inductive WatchStep
  | change (change : FileChange)
  | stop
  deriving Inhabited

/-- A file tree with a watcher and its preview, at a time. -/
structure WatchSession where
  files : FileTable
  watcher : Watcher
  live : Live
  now : Nat := 0
  deriving Inhabited

namespace WatchSession

/-- Start to watch the file with a path, for a preview with nothing in it. -/
def start (pipeline : Pipeline) (files : FileTable) (here : Location) (path : String)
    (window : Nat) : Except WatchError WatchSession :=
  let (started, handle) := (WatchHandle.start files here window).run.run ⟨path, { pipeline }⟩
  started.map fun watcher => { files, watcher, live := handle.live.settle }

/-- Let what was told so far take effect. -/
def settle (session : WatchSession) : WatchSession :=
  let now := session.now + session.watcher.window
  let (watcher, live) := session.watcher.poll now session.files session.live
  { session with watcher, live := live.settle, now }

/-- One step, settled. -/
def step (session : WatchSession) : WatchStep → WatchSession
  | .change change =>
    settle
      { session with
        files := change.apply session.files
        watcher := session.watcher.record session.now change.event }
  | .stop => { session with watcher := session.watcher.stop }

/-- The snapshots published last at the start and after each step. -/
def snapshots (session : WatchSession) : List WatchStep → List Snapshot
  | [] => [session.live.latest]
  | step :: rest => session.live.latest :: (session.step step).snapshots rest

end WatchSession

end MarkView
