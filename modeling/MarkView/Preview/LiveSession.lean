import MarkView.Preview.Live
/-!
# Sessions with a live preview

A live preview as one user sees it whose worker runs only while the user waits: what can
be asked of it, in which order, and what it replies. A subscriber is there from the
start and remembers the version that it saw last, but not what was published then.
-/

namespace MarkView

/-- What is asked of a live preview. -/
inductive LiveRequest
  | submit (text : String)
  | wait (revision : Nat)
  | latest
  | poll
  | shutdown
  | kill
  deriving DecidableEq, Repr, Inhabited

/-- What a live preview replies. -/
inductive LiveReply
  | nothing
  | revision (n : Nat)
  | snapshot (snapshot : Snapshot)
  | pending
  | stopped
  | polled (changed : Bool) (revision : Nat)
  | closed
  deriving Inhabited

/-- A live preview with its subscriber. After a shutdown it takes no more requests, but
what it published last can still be seen. -/
structure LiveSession where
  live : Live := {}
  isOpen : Bool := true
  seen : Nat := 0
  deriving Inhabited

namespace LiveSession

/-- Wait for a revision. What is published already is given at once; otherwise the worker
goes through the queue, if it is running. -/
def wait (session : LiveSession) (revision : Nat) : LiveReply × LiveSession :=
  if !session.isOpen then (.nothing, session)
  else if revision ≤ session.live.latest.revision then (.snapshot session.live.latest, session)
  else if !session.live.isRunning then (.stopped, session)
  else
    let live := session.live.settle
    (if revision ≤ live.latest.revision then .snapshot live.latest else .pending,
      { session with live })

/-- Let the subscriber look. A version other than the one it saw last is a change. -/
def poll (session : LiveSession) : LiveReply × LiveSession :=
  if session.live.isRunning then
    (.polled (session.live.version != session.seen) session.live.latest.revision,
      { session with seen := session.live.version })
  else (.closed, session)

/-- Close the preview. A running worker first goes through the queue. -/
def shutdown (session : LiveSession) : LiveSession :=
  if session.isOpen && session.live.isRunning then
    { session with live := session.live.settle.kill, isOpen := false }
  else { session with isOpen := false }

/-- One request. -/
def step (session : LiveSession) : LiveRequest → LiveReply × LiveSession
  | .submit text =>
    if session.isOpen then
      let (revision, live) := session.live.submit text
      (.revision revision, { session with live })
    else (.nothing, session)
  | .wait revision => session.wait revision
  | .latest => (.snapshot session.live.latest, session)
  | .poll => session.poll
  | .shutdown => (.nothing, session.shutdown)
  | .kill => (.nothing, { session with live := session.live.kill })

/-- A list of requests, with the replies in order. -/
def run (session : LiveSession) : List LiveRequest → List LiveReply × LiveSession
  | [] => ([], session)
  | request :: rest =>
    let (reply, session) := session.step request
    let (replies, session) := session.run rest
    (reply :: replies, session)

end LiveSession

end MarkView
