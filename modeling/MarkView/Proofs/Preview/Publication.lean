import MarkView.Preview.Live
/-!
# What is published while many submit

Any number of submitters share a live preview. Each takes a revision and then sends its edit,
and between the two the others and the worker may move, so edits reach the queue in any order.
`Exchange` is a live preview in the middle of all that, with a record of what has happened, and
`Exchange.run` plays the moves in any order at all.

Every move keeps two things. `Numbered` says of the submitters that the calls have the revisions
1, 2, 3 and so on. `Published` says of the worker that it loses no newest edit: the greatest
revision sent is either published or still waiting, however the worker skips what is older. So
once nothing is waiting the newest is published, and whatever is published next is newer.
The version that subscribers go by counts the publications (`version_run`).
-/

namespace MarkView

/-- The greatest revision among some edits, or 0 if there are none. -/
def newestRevision (edits : List Edit) : Nat := (edits.map Edit.revision).foldr max 0

@[simp] theorem newestRevision_nil : newestRevision [] = 0 := rfl

@[simp] theorem newestRevision_cons (edit : Edit) (edits : List Edit) :
    newestRevision (edit :: edits) = max edit.revision (newestRevision edits) := rfl

@[simp] theorem newestRevision_append (xs ys : List Edit) :
    newestRevision (xs ++ ys) = max (newestRevision xs) (newestRevision ys) := by
  induction xs with
  | nil => simp
  | cons edit rest ih =>
    rw [List.cons_append, newestRevision_cons, newestRevision_cons, ih, Nat.max_assoc]

theorem Edit.revision_newer (edit other : Edit) :
    (edit.newer other).revision = max edit.revision other.revision := by
  unfold Edit.newer
  split <;> omega

theorem Edit.newer_eq_or (edit other : Edit) :
    edit.newer other = edit ∨ edit.newer other = other := by
  unfold Edit.newer
  split
  · exact .inr rfl
  · exact .inl rfl

/-- The edit that the worker is busy with. -/
def Work.edits : Work → List Edit
  | .draining newest | .rendering newest => [newest]
  | .waiting | .stopped => []

namespace Live

/-- The edits that were sent and that the worker is not done with. -/
def unpublished (live : Live) : List Edit := live.work.edits ++ live.queue

/-- What the next step of the worker publishes, if it publishes anything. -/
def published? (live : Live) : Option Snapshot :=
  match live.work with
  | .rendering newest =>
    if newest.revision ≤ live.latest.revision then none
    else some ⟨newest.revision, live.pipeline.render newest.text⟩
  | _ => none

/-- The worker changes what is published only by publishing. -/
theorem step_latest (live : Live) : live.step.latest = live.published?.getD live.latest := by
  unfold step published?
  split <;> simp_all only [Option.getD_none]
  unfold publish
  split <;> rfl

/-- The version counts what is published. -/
theorem step_version (live : Live) :
    live.step.version = live.version + live.published?.toList.length := by
  unfold step published?
  split <;> simp_all only [Option.toList_none, List.length_nil, Nat.add_zero]
  unfold publish
  split <;> rfl

@[simp] theorem step_pipeline (live : Live) : live.step.pipeline = live.pipeline := by
  unfold step
  split <;> simp

@[simp] theorem step_next (live : Live) : live.step.next = live.next := by
  unfold step
  split <;> simp

theorem step_isRunning (live : Live) : live.step.isRunning = live.isRunning := by
  obtain ⟨pipeline, next, queue, work, latest, version⟩ := live
  cases work <;> cases queue <;> rfl

end Live

/-- A live preview, the edits whose submitters have a revision but have not sent them yet, and
what has happened so far: all submit calls in the order of their revisions, all edits sent, and
all snapshots published. -/
structure Exchange where
  live : Live
  held : List Edit := []
  submitted : List Edit := []
  sent : List Edit := []
  published : List Snapshot := []

/-- A move: a submitter takes a revision for a text, one of those who have not sent their edit
yet sends it, or the worker makes a step. -/
inductive Move
  | take (text : String)
  | send (index : Nat)
  | work

namespace Exchange

/-- Take a revision for a text. -/
def take (x : Exchange) (text : String) : Exchange :=
  let (revision, live) := x.live.takeRevision
  { x with
    live
    held := x.held ++ [⟨revision, text⟩]
    submitted := x.submitted ++ [⟨revision, text⟩] }

/-- Send one of the edits that are held. -/
def send (x : Exchange) (index : Nat) : Exchange :=
  match x.held[index]? with
  | some edit =>
    { x with live := x.live.send edit, held := x.held.eraseIdx index, sent := x.sent ++ [edit] }
  | none => x

/-- Let the worker make a step. -/
def work (x : Exchange) : Exchange :=
  { x with live := x.live.step, published := x.published ++ x.live.published?.toList }

/-- Make one move. -/
def step (x : Exchange) : Move → Exchange
  | .take text => x.take text
  | .send index => x.send index
  | .work => x.work

/-- A live preview after some moves. -/
def run (pipeline : Pipeline) (moves : List Move) : Exchange :=
  moves.foldl step { live := { pipeline } }

variable {x : Exchange} {pipeline : Pipeline}

/-! ## The submitters -/

/-- The calls so far have the revisions from 1 on, and what is held or was sent comes from a
call. -/
structure Numbered (x : Exchange) : Prop where
  next : x.live.next = x.submitted.length + 1
  revisions : x.submitted.map Edit.revision = List.range' 1 x.submitted.length
  held : ∀ edit ∈ x.held, edit ∈ x.submitted
  sent : ∀ edit ∈ x.sent, edit ∈ x.submitted

theorem Numbered.init (live : Live) (h : live.next = 1) : Numbered { live } :=
  ⟨h, rfl, by simp, by simp⟩

theorem Numbered.take (h : x.Numbered) (text : String) : (x.take text).Numbered where
  next := by simp [Exchange.take, Live.takeRevision, h.next]
  revisions := by
    simp only [Exchange.take, Live.takeRevision, List.map_append, List.length_append, h.revisions,
      h.next, List.map_cons, List.map_nil, List.length_cons, List.length_nil, Nat.zero_add]
    rw [List.range'_concat, Nat.one_mul, Nat.add_comm 1]
  held := by
    intro edit hedit
    simp only [Exchange.take, List.mem_append] at hedit ⊢
    exact hedit.imp_left (h.held edit)
  sent := fun edit hedit => List.mem_append_left _ (h.sent edit hedit)

theorem Numbered.send (h : x.Numbered) (index : Nat) : (x.send index).Numbered := by
  unfold Exchange.send
  split
  · next edit hedit =>
    have hmem : edit ∈ x.held := List.mem_of_getElem? hedit
    refine ⟨?_, h.revisions, fun e he => h.held e (List.mem_of_mem_eraseIdx he), ?_⟩
    · simp only [Live.send]
      split <;> exact h.next
    · intro e he
      rw [List.mem_append, List.mem_singleton] at he
      rcases he with he | rfl
      · exact h.sent e he
      · exact h.held e hmem
  · exact h

theorem Numbered.work (h : x.Numbered) : x.work.Numbered :=
  ⟨by simp [Exchange.work, h.next], h.revisions, h.held, h.sent⟩

/-- **Every move keeps the calls numbered.** -/
theorem Numbered.step (h : x.Numbered) (move : Move) : (x.step move).Numbered := by
  cases move with
  | take text => exact h.take text
  | send index => exact h.send index
  | work => exact h.work

/-! ## The worker -/

/-- What is published is in order and made from edits that were sent, and the greatest revision
sent is published or still to be. -/
structure Published (pipeline : Pipeline) (x : Exchange) : Prop where
  pipeline_eq : x.live.pipeline = pipeline
  running : x.live.isRunning = true
  latest : x.live.latest = x.published.getLast?.getD .initial
  increasing : x.published.Pairwise (·.revision < ·.revision)
  below : ∀ snapshot ∈ x.published, snapshot.revision ≤ x.live.latest.revision
  genuine : ∀ snapshot ∈ x.published,
    ∃ edit ∈ x.sent, snapshot = ⟨edit.revision, pipeline.render edit.text⟩
  unpublished : ∀ edit ∈ x.live.unpublished, edit ∈ x.sent
  newest : max x.live.latest.revision (newestRevision x.live.unpublished) = newestRevision x.sent
  version : x.live.version = x.published.length

theorem Published.init (pipeline : Pipeline) : Published pipeline { live := { pipeline } } where
  pipeline_eq := rfl
  running := rfl
  latest := rfl
  increasing := .nil
  below := by simp
  genuine := by simp
  unpublished := by simp [Live.unpublished, Work.edits]
  newest := rfl
  version := rfl

theorem Published.take (h : x.Published pipeline) (text : String) :
    (x.take text).Published pipeline :=
  ⟨h.pipeline_eq, h.running, h.latest, h.increasing, h.below, h.genuine, h.unpublished, h.newest,
    h.version⟩

/-- What is sent waits behind everything else. -/
theorem Published.send (h : x.Published pipeline) (index : Nat) :
    (x.send index).Published pipeline := by
  unfold Exchange.send
  split
  · next edit hedit =>
    have hsend : x.live.send edit = { x.live with queue := x.live.queue ++ [edit] } :=
      if_pos h.running
    have hopen : (x.live.send edit).unpublished = x.live.unpublished ++ [edit] := by
      simp [hsend, Live.unpublished]
    refine ⟨?_, ?_, ?_, h.increasing, ?_, ?_, ?_, ?_, ?_⟩
    · rw [hsend]; exact h.pipeline_eq
    · rw [hsend]; exact h.running
    · rw [hsend]; exact h.latest
    · rw [hsend]; exact h.below
    · intro snapshot hsnapshot
      obtain ⟨e, he, rfl⟩ := h.genuine snapshot hsnapshot
      exact ⟨e, List.mem_append_left _ he, rfl⟩
    · intro e he
      rw [hopen, List.mem_append] at he
      exact List.mem_append.mpr (he.imp_left (h.unpublished e))
    · have hnewest := h.newest
      simp only [hopen, newestRevision_append]
      rw [hsend]
      simp only
      omega
    · rw [hsend]; exact h.version
  · exact h

/-- A step of the worker that publishes nothing may drop an edit, but only for a newer one. -/
theorem Published.work_of_none (h : x.Published pipeline) (hnone : x.live.published? = none)
    (hsub : ∀ edit ∈ x.live.step.unpublished, edit ∈ x.live.unpublished)
    (hnewest : max x.live.latest.revision (newestRevision x.live.step.unpublished) =
      max x.live.latest.revision (newestRevision x.live.unpublished)) :
    x.work.Published pipeline := by
  have hlatest : x.live.step.latest = x.live.latest := by rw [Live.step_latest, hnone]; rfl
  have hpublished : x.work.published = x.published := by simp [Exchange.work, hnone]
  refine ⟨?_, ?_, ?_, ?_, ?_, ?_, ?_, ?_, ?_⟩
  · simpa [Exchange.work] using h.pipeline_eq
  · simpa [Exchange.work, Live.step_isRunning] using h.running
  · rw [hpublished]; exact hlatest.trans h.latest
  · rw [hpublished]; exact h.increasing
  · rw [hpublished]
    intro snapshot hsnapshot
    have hbelow := h.below snapshot hsnapshot
    rw [← hlatest] at hbelow
    exact hbelow
  · rw [hpublished]; exact h.genuine
  · exact fun edit hedit => h.unpublished edit (hsub edit hedit)
  · have hsent := h.newest
    simp only [Exchange.work, hlatest]
    omega
  · rw [hpublished, ← h.version]
    simp [Exchange.work, Live.step_version, hnone]

/-- A step that publishes does so for an edit that is newer than all that was published. -/
theorem Published.work_of_some (h : x.Published pipeline) {newest : Edit}
    (hwork : x.live.work = .rendering newest) (hnew : x.live.latest.revision < newest.revision) :
    x.work.Published pipeline := by
  have hsome : x.live.published? =
      some ⟨newest.revision, x.live.pipeline.render newest.text⟩ := by
    simp [Live.published?, hwork, hnew]
  have hlatest : x.live.step.latest =
      ⟨newest.revision, x.live.pipeline.render newest.text⟩ := by
    rw [Live.step_latest, hsome]; rfl
  have hpublished : x.work.published =
      x.published ++ [⟨newest.revision, x.live.pipeline.render newest.text⟩] := by
    simp [Exchange.work, hsome]
  have hbefore : x.live.unpublished = newest :: x.live.queue := by
    simp [Live.unpublished, hwork, Work.edits]
  have hafter : x.live.step.unpublished = x.live.queue := by
    simp [Live.unpublished, Live.step, hwork, Work.edits]
  have hsent : newest ∈ x.sent := h.unpublished newest (by simp [hbefore])
  refine ⟨?_, ?_, ?_, ?_, ?_, ?_, ?_, ?_, ?_⟩
  · simpa [Exchange.work] using h.pipeline_eq
  · simpa [Exchange.work, Live.step_isRunning] using h.running
  · rw [hpublished, List.getLast?_concat]; exact hlatest
  · rw [hpublished, List.pairwise_append]
    refine ⟨h.increasing, List.pairwise_singleton _ _, ?_⟩
    intro snapshot hsnapshot last hlast
    rw [List.mem_singleton.mp hlast]
    exact Nat.lt_of_le_of_lt (h.below snapshot hsnapshot) hnew
  · rw [hpublished, List.forall_mem_append, List.forall_mem_singleton]
    simp only [Exchange.work, hlatest]
    refine ⟨fun snapshot hsnapshot => ?_, Nat.le_refl _⟩
    have hbelow := h.below snapshot hsnapshot
    omega
  · rw [hpublished, List.forall_mem_append, List.forall_mem_singleton]
    exact ⟨h.genuine, newest, hsent, by rw [h.pipeline_eq]⟩
  · intro edit hedit
    refine h.unpublished edit ?_
    rw [hbefore]
    exact List.mem_cons_of_mem _ (hafter ▸ hedit)
  · have hnewest := h.newest
    simp only [hbefore, newestRevision_cons] at hnewest
    simp only [Exchange.work, hlatest, hafter]
    omega
  · rw [hpublished, List.length_append, ← h.version]
    simp [Exchange.work, Live.step_version, hsome]

theorem Published.work (h : x.Published pipeline) : x.work.Published pipeline := by
  cases hwork : x.live.work with
  | stopped => exact absurd h.running (by simp [Live.isRunning, hwork])
  | waiting =>
    -- an edit moves from the queue to the worker, if there is one
    have hsame : x.live.step.unpublished = x.live.unpublished := by
      cases hqueue : x.live.queue <;>
        simp [Live.unpublished, Live.step, hwork, hqueue, Work.edits]
    exact h.work_of_none (by simp [Live.published?, hwork]) (by simp [hsame]) (by rw [hsame])
  | draining newest =>
    have hnone : x.live.published? = none := by simp [Live.published?, hwork]
    cases hqueue : x.live.queue with
    | nil =>
      have hsame : x.live.step.unpublished = x.live.unpublished := by
        simp [Live.unpublished, Live.step, hwork, hqueue, Work.edits]
      exact h.work_of_none hnone (by simp [hsame]) (by rw [hsame])
    | cons edit rest =>
      -- of two edits the newer one is kept
      have hbefore : x.live.unpublished = newest :: edit :: rest := by
        simp [Live.unpublished, hwork, hqueue, Work.edits]
      have hafter : x.live.step.unpublished = newest.newer edit :: rest := by
        simp [Live.unpublished, Live.step, hwork, hqueue, Work.edits]
      refine h.work_of_none hnone ?_ ?_
      · rw [hbefore, hafter]
        intro e he
        rcases List.mem_cons.mp he with rfl | he
        · rcases newest.newer_eq_or edit with hkeep | hkeep <;> simp [hkeep]
        · exact List.mem_cons_of_mem _ (List.mem_cons_of_mem _ he)
      · rw [hbefore, hafter]
        simp only [newestRevision_cons, Edit.revision_newer]
        omega
  | rendering newest =>
    by_cases hold : newest.revision ≤ x.live.latest.revision
    · -- what is published is newer, so the edit is dropped
      have hbefore : x.live.unpublished = newest :: x.live.queue := by
        simp [Live.unpublished, hwork, Work.edits]
      have hafter : x.live.step.unpublished = x.live.queue := by
        simp [Live.unpublished, Live.step, hwork, Work.edits]
      refine h.work_of_none (by simp [Live.published?, hwork, hold]) ?_ ?_
      · rw [hbefore, hafter]
        exact fun edit hedit => List.mem_cons_of_mem _ hedit
      · rw [hbefore, hafter, newestRevision_cons]
        omega
    · exact h.work_of_some hwork (by omega)

/-- **Every move keeps the published snapshots in order and the newest edit in sight.** -/
theorem Published.step (h : x.Published pipeline) (move : Move) :
    (x.step move).Published pipeline := by
  cases move with
  | take text => exact h.take text
  | send index => exact h.send index
  | work => exact h.work

/-! ## Whole runs -/

theorem invariant_run (pipeline : Pipeline) (moves : List Move) :
    (run pipeline moves).Numbered ∧ (run pipeline moves).Published pipeline := by
  have hstart : Numbered { live := { pipeline } } ∧ Published pipeline { live := { pipeline } } :=
    ⟨Numbered.init _ rfl, Published.init pipeline⟩
  unfold run
  generalize ({ live := { pipeline } } : Exchange) = x at hstart
  induction moves generalizing x with
  | nil => exact hstart
  | cons move rest ih => exact ih (x.step move) ⟨hstart.1.step move, hstart.2.step move⟩

/-- **The version counts the publications**, and nothing else. -/
theorem version_run (pipeline : Pipeline) (moves : List Move) :
    (run pipeline moves).live.version = (run pipeline moves).published.length :=
  (invariant_run pipeline moves).2.version

/-- **Published snapshots are in order, genuine, and never miss the newest edit**, whatever the
order of the moves. The submit calls have the revisions 1, 2, 3 and so on, so each revision is
that of one call. The revisions of the published snapshots increase; each snapshot is the
rendition of the text of the call with its revision; and whenever the queue is empty and the
worker waits, the snapshot that stands published, which is the last one, has the greatest
revision sent. -/
theorem published_newest (pipeline : Pipeline) (moves : List Move) :
    let x := run pipeline moves
    x.submitted.map Edit.revision = List.range' 1 x.submitted.length ∧
    (x.published.map Snapshot.revision).Pairwise (· < ·) ∧
    (∀ snapshot ∈ x.published, ∃ edit ∈ x.submitted,
      snapshot = ⟨edit.revision, pipeline.render edit.text⟩) ∧
    x.live.latest = x.published.getLast?.getD .initial ∧
    (x.live.queue = [] → x.live.work = .waiting →
      x.live.latest.revision = newestRevision x.sent) := by
  obtain ⟨hnumbered, hpublished⟩ := invariant_run pipeline moves
  refine ⟨hnumbered.revisions, ?_, ?_, hpublished.latest, ?_⟩
  · exact List.pairwise_map.mpr hpublished.increasing
  · intro snapshot hsnapshot
    obtain ⟨edit, hedit, rfl⟩ := hpublished.genuine snapshot hsnapshot
    exact ⟨edit, hnumbered.sent edit hedit, rfl⟩
  · intro hqueue hwork
    have hnewest := hpublished.newest
    have hnothing : (run pipeline moves).live.unpublished = [] := by
      simp [Live.unpublished, hqueue, hwork, Work.edits]
    rw [hnothing, newestRevision_nil] at hnewest
    omega

-- an edit that another has overtaken is never published
example : ((run {} [.take "old", .take "new", .send 1, .work, .work, .work, .send 0, .work, .work,
    .work]).published.map Snapshot.revision) = [2] := by rfl

end Exchange

end MarkView
