import MarkView.Preview.Snapshot
/-!
# Live previews

Edits are queued and rendered by a worker. When several are waiting, only the newest is
rendered, and each rendition is published as one snapshot. Submitting takes two steps,
between which others may act: a revision is taken, then the edit is sent. The worker
acts in steps of its own: it receives an edit, goes through what else is waiting, and
publishes the newest of them, unless a newer one is published already. Each publication
raises the version, by which a subscriber can tell whether it has missed one.
-/

namespace MarkView

/-- A text that waits to be rendered, with its revision. -/
structure Edit where
  revision : Nat
  text : String
  deriving DecidableEq, Repr, Inhabited

/-- The newer of two edits; the first, if they are equally old. -/
def Edit.newer (edit other : Edit) : Edit :=
  if edit.revision < other.revision then other else edit

/-- What the worker is at. -/
inductive Work
  | waiting
  | draining (newest : Edit)
  | rendering (newest : Edit)
  | stopped
  deriving DecidableEq, Repr, Inhabited

/-- A live preview: the next revision, the edits that wait, what the worker is at, the
snapshot published last, and how often one was published. -/
structure Live where
  pipeline : Pipeline := {}
  next : Nat := 1
  queue : List Edit := []
  work : Work := .waiting
  latest : Snapshot := .initial
  version : Nat := 0
  deriving Inhabited

namespace Live

/-- The worker is running. -/
def isRunning (live : Live) : Bool := live.work != .stopped

/-- The first step of submitting: take a revision. -/
def takeRevision (live : Live) : Nat × Live := (live.next, { live with next := live.next + 1 })

/-- The second step of submitting: send the edit. When the worker has stopped, the
edit is dropped. -/
def send (live : Live) (edit : Edit) : Live :=
  if live.isRunning then { live with queue := live.queue ++ [edit] } else live

/-- Submit a text, and tell its revision. -/
def submit (live : Live) (text : String) : Nat × Live :=
  let (revision, live) := live.takeRevision
  (revision, live.send ⟨revision, text⟩)

/-- Render an edit and publish it, unless what is published already is as new. -/
def publish (live : Live) (edit : Edit) : Live :=
  if edit.revision ≤ live.latest.revision then live
  else
    { live with
      latest := ⟨edit.revision, live.pipeline.render edit.text⟩
      version := live.version + 1 }

@[simp] theorem publish_pipeline (live : Live) (edit : Edit) :
    (live.publish edit).pipeline = live.pipeline := by
  unfold publish
  split <;> rfl

@[simp] theorem publish_next (live : Live) (edit : Edit) :
    (live.publish edit).next = live.next := by
  unfold publish
  split <;> rfl

@[simp] theorem publish_queue (live : Live) (edit : Edit) :
    (live.publish edit).queue = live.queue := by
  unfold publish
  split <;> rfl

/-- What the worker is at and what waits have no part in a publication. -/
theorem publish_with (live : Live) (edit : Edit) (work : Work) (queue : List Edit) :
    ({ live with work, queue } : Live).publish edit = { live.publish edit with work, queue } := by
  unfold publish
  by_cases h : edit.revision ≤ live.latest.revision
  · rw [if_pos h, if_pos h]
  · rw [if_neg h, if_neg h]

/-- One step of the worker. With nothing to receive it stays where it is. -/
def step (live : Live) : Live :=
  match live.work, live.queue with
  | .waiting, [] => live
  | .waiting, edit :: rest => { live with work := .draining edit, queue := rest }
  | .draining newest, [] => { live with work := .rendering newest }
  | .draining newest, edit :: rest =>
    { live with work := .draining (newest.newer edit), queue := rest }
  | .rendering newest, _ => { live.publish newest with work := .waiting }
  | .stopped, _ => live

/-- A number of steps of the worker. -/
def steps (live : Live) : Nat → Live
  | 0 => live
  | n + 1 => live.step.steps n

/-- Let the worker go on until it waits with nothing left in the queue. From where it
waits it needs a step for each edit, one to see that no more are there, and one to
publish. -/
def settle (live : Live) : Live := live.steps (live.queue.length + 3)

/-- Stop the worker. What is queued is lost. -/
def kill (live : Live) : Live := { live with work := .stopped, queue := [] }

/-! ## The worker left alone -/

theorem steps_add (live : Live) (m n : Nat) : live.steps (m + n) = (live.steps m).steps n := by
  induction m generalizing live with
  | zero => simp [steps]
  | succ m ih => rw [Nat.add_right_comm]; exact ih live.step

theorem step_eq_self {live : Live} (hw : live.work = .waiting) (hq : live.queue = []) :
    live.step = live := by
  unfold step
  simp [hw, hq]

theorem steps_eq_self {live : Live} (hw : live.work = .waiting) (hq : live.queue = []) (n : Nat) :
    live.steps n = live := by
  induction n with
  | zero => rfl
  | succ n ih => rw [steps, step_eq_self hw hq]; exact ih

/-- While the worker drains the queue it keeps the newest edit. -/
theorem steps_draining (queue : List Edit) (live : Live) (newest : Edit)
    (hw : live.work = .draining newest) (hq : live.queue = queue) :
    live.steps (queue.length + 2) =
      { live.publish (queue.foldl Edit.newer newest) with work := .waiting, queue := [] } := by
  induction queue generalizing live newest with
  | nil =>
    have hstep : live.step = { live with work := .rendering newest } := by
      simp [step, hw, hq]
    have hpublish : ({ live with work := .rendering newest } : Live).step =
        { ({ live with work := .rendering newest } : Live).publish newest with
          work := .waiting } := by
      simp [step]
    rw [List.length_nil, steps, steps, steps, hstep, hpublish,
      publish_with live newest (.rendering newest) live.queue, List.foldl_nil, hq]
  | cons edit rest ih =>
    have hstep : live.step = { live with work := .draining (newest.newer edit), queue := rest } := by
      simp [step, hw, hq]
    rw [List.length_cons, Nat.add_right_comm, steps, hstep, ih _ _ rfl rfl, publish_with,
      List.foldl_cons]

/-- A worker left alone with edits publishes the newest of them. -/
theorem settle_of_waiting_cons {live : Live} {edit : Edit} {rest : List Edit}
    (hw : live.work = .waiting) (hq : live.queue = edit :: rest) :
    live.settle =
      { live.publish (rest.foldl Edit.newer edit) with work := .waiting, queue := [] } := by
  have hstep : live.step = { live with work := .draining edit, queue := rest } := by
    simp [step, hw, hq]
  have hlen : live.queue.length + 3 = (rest.length + 2 + 1) + 1 := by
    rw [hq, List.length_cons]
  rw [settle, hlen, steps, hstep, steps_add _ (rest.length + 2) 1, steps_draining rest _ edit rfl rfl,
    steps_eq_self rfl rfl, publish_with]

/-- A worker left alone without edits does nothing. -/
theorem settle_of_waiting_nil {live : Live} (hw : live.work = .waiting) (hq : live.queue = []) :
    live.settle = live := steps_eq_self hw hq _

end Live

end MarkView
