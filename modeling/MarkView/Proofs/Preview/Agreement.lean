import MarkView.Proofs.Preview.Publication
import MarkView.Proofs.Preview.Session
import MarkView.Proofs.Preview.Viewing
/-!
# Live previews agree with view states

A view state renders an edit at once, and skips one that changes nothing. A live preview never
compares texts: it renders the newest of those that wait and skips the others. Both start from the
same snapshot. Once a live preview has gone through everything that was sent, both have rendered
the last text, or none, so they show the same, and only their revisions differ: the live preview
numbers all texts and the view state those that change it (`live_agrees`).

Which texts the worker finds waiting together is left to chance. It is a matter of when it moves
(`Exchange.run`), so every order of the moves is considered, and the batches that it drains are
only one way of telling them apart.
-/

namespace MarkView

/-- The texts that revisions are taken for, in the order of the revisions. -/
def takenTexts (moves : List Move) : List String :=
  moves.filterMap fun
    | .take text => some text
    | _ => none

namespace Live

/-- Nothing waits, and the worker is done. -/
structure Idle (live : Live) : Prop where
  queue : live.queue = []
  work : live.work = .waiting

/-- Submit some texts in turn. -/
def submitAll (live : Live) (texts : List String) : Live :=
  texts.foldl (fun live text => (live.submit text).2) live

/-- Submit some texts batch by batch, and let the worker go through each batch. -/
def drainBatches (live : Live) (batches : List (List String)) : Live :=
  batches.foldl (fun live batch => (live.submitAll batch).settle) live

/-- What is published is what a view state shows after edits to the same texts. It has the number
of the texts, and the other the number of those that are a change. -/
structure Agrees (pipeline : Pipeline) (mode : ViewMode) (texts : List String) (live : Live) :
    Prop where
  rendition : live.latest.rendition =
    (ViewSession.run pipeline mode (texts.map .edit)).state.snapshot.rendition
  revision : live.latest.revision = texts.length
  changes : (ViewSession.run pipeline mode (texts.map .edit)).state.snapshot.revision =
    changes texts

variable {pipeline : Pipeline} {mode : ViewMode} {texts : List String} {live : Live}

/-! ## The last text -/

theorem editedTexts_map_edit (texts : List String) : editedTexts (texts.map .edit) = texts := by
  rw [editedTexts, List.filterMap_map]
  exact List.filterMap_some

/-- A text that was never rendered is the empty one. -/
theorem rendition_ofTexts (pipeline : Pipeline) (texts : List String) :
    (Snapshot.ofTexts pipeline texts).rendition = pipeline.render (lastText texts) := by
  rcases List.eq_nil_or_concat texts with rfl | ⟨earlier, text, rfl⟩
  · exact pipeline.render_empty.symm
  · rw [List.concat_eq_append, Snapshot.ofTexts_concat, lastText_concat]

theorem agrees_of_latest (h : live.latest = .ofTexts pipeline texts) :
    live.Agrees pipeline mode texts := by
  have hedited := (ViewSession.tracks_run pipeline mode (texts.map .edit)).snapshot
  rw [snapshotAfter, editedTexts_map_edit] at hedited
  refine ⟨?_, ?_, ?_⟩
  · rw [h, hedited, rendition_ofTexts]
  · rw [h, Snapshot.revision_ofTexts]
  · rw [hedited]

/-! ## A worker left alone -/

theorem Idle.steps_eq (h : live.Idle) (n : Nat) : live.steps n = live :=
  steps_eq_self h.work h.queue n

theorem idle_steps_draining {newest : Edit} (hwork : live.work = .draining newest) :
    (live.steps (live.queue.length + 2)).Idle := by
  rw [steps_draining live.queue live newest hwork rfl]
  exact ⟨rfl, rfl⟩

theorem idle_steps_waiting (hwork : live.work = .waiting) :
    (live.steps (live.queue.length + 2)).Idle := by
  cases hqueue : live.queue with
  | nil =>
    have hidle : live.Idle := ⟨hqueue, hwork⟩
    rwa [hidle.steps_eq]
  | cons edit rest =>
    have hstep : live.step = { live with work := .draining edit, queue := rest } := by
      simp [step, hwork, hqueue]
    have hdraining : live.step.work = .draining edit := by rw [hstep]
    have hrest : live.step.queue = rest := by rw [hstep]
    have hidle := idle_steps_draining hdraining
    rw [hrest] at hidle
    rw [List.length_cons, Nat.add_right_comm]
    exact hidle

/-- **Left alone, a worker that runs is done after a while**, whatever it was at. -/
theorem idle_settle (h : live.isRunning = true) : live.settle.Idle := by
  cases hwork : live.work with
  | stopped => simp [isRunning, hwork] at h
  | waiting =>
    have hidle := idle_steps_waiting hwork
    rwa [settle, steps_add live (live.queue.length + 2) 1, hidle.steps_eq]
  | draining newest =>
    have hidle := idle_steps_draining hwork
    rwa [settle, steps_add live (live.queue.length + 2) 1, hidle.steps_eq]
  | rendering newest =>
    have hstep : live.step = { live.publish newest with work := .waiting } := by
      simp [step, hwork]
    have hwaiting : live.step.work = .waiting := by rw [hstep]
    have hidle := idle_steps_waiting hwaiting
    have hqueue : live.step.queue = live.queue := by rw [hstep, publish_queue]
    rwa [hqueue] at hidle

/-! ## Batches -/

theorem submitAll_spec (hfollows : live.Follows pipeline texts) (hawaits : live.Awaits texts)
    (batch : List String) :
    (live.submitAll batch).Follows pipeline (texts ++ batch) ∧
      (live.submitAll batch).Awaits (texts ++ batch) := by
  induction batch generalizing live texts with
  | nil =>
    rw [List.append_nil]
    exact ⟨hfollows, hawaits⟩
  | cons text rest ih =>
    rw [List.append_cons]
    exact ih (hfollows.submit text) (hawaits.submit hfollows text)

/-- **After any batches** the worker is done with all texts in them. -/
theorem drainBatches_spec (hfollows : live.Follows pipeline texts) (hawaits : live.Awaits texts)
    (hidle : live.Idle) (batches : List (List String)) :
    (live.drainBatches batches).Follows pipeline (texts ++ batches.flatten) ∧
      (live.drainBatches batches).Awaits (texts ++ batches.flatten) ∧
      (live.drainBatches batches).Idle := by
  induction batches generalizing live texts with
  | nil =>
    rw [List.flatten_nil, List.append_nil]
    exact ⟨hfollows, hawaits, hidle⟩
  | cons batch rest ih =>
    obtain ⟨hfollows', hawaits'⟩ := submitAll_spec hfollows hawaits batch
    have hrunning : (live.submitAll batch).isRunning = true := by
      simp [isRunning, hawaits'.work]
    rw [List.flatten_cons, ← List.append_assoc]
    exact ih (hawaits'.follows_settle hfollows') (hawaits'.settle hfollows')
      (idle_settle hrunning)

theorem latest_drainBatches (pipeline : Pipeline) (batches : List (List String)) :
    (({ pipeline } : Live).drainBatches batches).Idle ∧
      (({ pipeline } : Live).drainBatches batches).latest =
        .ofTexts pipeline batches.flatten := by
  obtain ⟨hfollows, hawaits, hidle⟩ :=
    drainBatches_spec (.init pipeline) (.init pipeline) ⟨rfl, rfl⟩ batches
  have hlatest := hawaits.latest_settle hfollows
  rw [settle, hidle.steps_eq] at hlatest
  exact ⟨hidle, hlatest⟩

end Live

theorem mem_editsOf {edit : Edit} {texts : List String} :
    edit ∈ editsOf texts ↔ ∃ i, edit.revision = i + 1 ∧ texts[i]? = some edit.text := by
  rw [editsOf, List.mem_mapIdx]
  constructor
  · rintro ⟨i, hi, rfl⟩
    exact ⟨i, rfl, List.getElem?_eq_getElem hi⟩
  · rintro ⟨i, hrevision, htext⟩
    obtain ⟨hi, htext⟩ := List.getElem?_eq_some_iff.mp htext
    exact ⟨i, hi, by rw [htext, ← hrevision]⟩

theorem le_newestRevision {edit : Edit} {edits : List Edit} (h : edit ∈ edits) :
    edit.revision ≤ newestRevision edits := by
  induction edits with
  | nil => cases h
  | cons first rest ih =>
    rw [newestRevision_cons]
    rcases List.mem_cons.mp h with rfl | h
    · exact Nat.le_max_left _ _
    · exact Nat.le_trans (ih h) (Nat.le_max_right _ _)

theorem length_le_newestRevision {texts : List String} {edits : List Edit}
    (h : ∀ edit ∈ editsOf texts, edit ∈ edits) : texts.length ≤ newestRevision edits := by
  rcases List.eq_nil_or_concat texts with rfl | ⟨earlier, text, rfl⟩
  · exact Nat.zero_le _
  · rw [List.concat_eq_append] at h ⊢
    have hlast : ⟨earlier.length + 1, text⟩ ∈ editsOf (earlier ++ [text]) := by
      simp [editsOf_concat]
    rw [List.length_append, List.length_singleton]
    exact le_newestRevision (h _ hlast)

/-- Only the last text has a revision as great as the number of the texts. -/
theorem eq_ofTexts_of_length_le {pipeline : Pipeline} {texts : List String} {edit : Edit}
    (hedit : edit ∈ editsOf texts) (hle : texts.length ≤ edit.revision) :
    ⟨edit.revision, pipeline.render edit.text⟩ = Snapshot.ofTexts pipeline texts := by
  obtain ⟨i, hrevision, htext⟩ := mem_editsOf.mp hedit
  obtain ⟨hlt, -⟩ := List.getElem?_eq_some_iff.mp htext
  have hlast : texts.getLast? = some edit.text := by
    rw [List.getLast?_eq_getElem?, ← htext]
    congr 1
    omega
  have hlength : edit.revision = texts.length := by omega
  rw [Snapshot.ofTexts, hlast, hlength]

namespace Exchange

variable {x : Exchange} {pipeline : Pipeline} {moves : List Move}

/-! ## Any order of the moves -/

theorem run_concat (pipeline : Pipeline) (moves : List Move) (move : Move) :
    run pipeline (moves ++ [move]) = (run pipeline moves).step move := by
  rw [run, List.foldl_append]
  rfl

/-- The texts are submitted in the order in which their revisions are taken. -/
theorem submitted_run (pipeline : Pipeline) (moves : List Move) :
    (run pipeline moves).submitted = editsOf (takenTexts moves) := by
  induction moves using List.reverseRecOn with
  | nil => rfl
  | append_singleton before move ih =>
    have hnext := (invariant_run pipeline before).1.next
    rw [run_concat]
    cases move with
    | take text =>
      have htexts : takenTexts (before ++ [.take text]) = takenTexts before ++ [text] := by
        simp [takenTexts]
      rw [htexts, editsOf_concat, ← ih, step, take, Live.takeRevision, hnext, ih, length_editsOf]
    | send index =>
      have htexts : takenTexts (before ++ [.send index]) = takenTexts before := by
        simp [takenTexts]
      rw [htexts, ← ih, step, send]
      split <;> rfl
    | work =>
      have htexts : takenTexts (before ++ [.work]) = takenTexts before := by
        simp [takenTexts]
      rw [htexts, ← ih]
      rfl

/-- What was submitted was sent, or is held. -/
theorem sent_or_held_step (h : ∀ edit ∈ x.submitted, edit ∈ x.sent ∨ edit ∈ x.held)
    (move : Move) :
    ∀ edit ∈ (x.step move).submitted, edit ∈ (x.step move).sent ∨ edit ∈ (x.step move).held := by
  cases move with
  | take text =>
    intro edit hedit
    rcases List.mem_append.mp hedit with hedit | hedit
    · exact (h edit hedit).imp_right (List.mem_append_left _)
    · exact .inr (List.mem_append_right _ hedit)
  | send index =>
    simp only [step, send]
    split
    · next sent hsent =>
      intro edit hedit
      rcases h edit hedit with hedit | hedit
      · exact .inl (List.mem_append_left _ hedit)
      · obtain ⟨i, hi⟩ := List.mem_iff_getElem?.mp hedit
        by_cases hsame : i = index
        · obtain rfl : sent = edit := by simpa [← hsame, hi] using hsent.symm
          exact .inl (by simp)
        · exact .inr (List.mem_eraseIdx_iff_getElem?.mpr ⟨i, hsame, hi⟩)
    · exact h
  | work => exact h

theorem sent_or_held_run (pipeline : Pipeline) (moves : List Move) :
    ∀ edit ∈ (run pipeline moves).submitted,
      edit ∈ (run pipeline moves).sent ∨ edit ∈ (run pipeline moves).held := by
  induction moves using List.reverseRecOn with
  | nil => exact fun _ h => nomatch h
  | append_singleton before move ih =>
    rw [run_concat]
    exact sent_or_held_step ih move

/-- **When everything was sent and the worker is done, the last text is published.** -/
theorem latest_of_idle (hheld : (run pipeline moves).held = [])
    (hidle : (run pipeline moves).live.Idle) :
    (run pipeline moves).live.latest = .ofTexts pipeline (takenTexts moves) := by
  obtain ⟨hnumbered, hpublished⟩ := invariant_run pipeline moves
  have hsubmitted := submitted_run pipeline moves
  have hsent : ∀ edit ∈ editsOf (takenTexts moves), edit ∈ (run pipeline moves).sent := by
    intro edit hedit
    have hplace := sent_or_held_run pipeline moves edit (hsubmitted ▸ hedit)
    simpa [hheld] using hplace
  have hnewest : (run pipeline moves).live.latest.revision =
      newestRevision (run pipeline moves).sent := by
    simpa [Live.unpublished, hidle.work, hidle.queue, Work.edits] using hpublished.newest
  have hle : (takenTexts moves).length ≤ (run pipeline moves).live.latest.revision :=
    hnewest ▸ length_le_newestRevision hsent
  have hlatest := hpublished.latest
  cases hlast : (run pipeline moves).published.getLast? with
  | none =>
    -- nothing is published, so there are no texts
    rw [hlast, Option.getD_none] at hlatest
    rw [hlatest] at hle
    rw [hlatest, List.length_eq_zero_iff.mp (Nat.le_zero.mp hle)]
    rfl
  | some snapshot =>
    rw [hlast, Option.getD_some] at hlatest
    obtain ⟨edit, hedit, hgenuine⟩ := hpublished.genuine snapshot (List.mem_of_getLast? hlast)
    have hof : edit ∈ editsOf (takenTexts moves) := hsubmitted ▸ hnumbered.sent edit hedit
    rw [hlatest, hgenuine] at hle ⊢
    exact eq_ofTexts_of_length_le hof hle

/-- The moves of a worker that is left alone. -/
theorem foldl_work (x : Exchange) (n : Nat) :
    ((List.replicate n Move.work).foldl step x).live = x.live.steps n ∧
      ((List.replicate n Move.work).foldl step x).held = x.held := by
  induction n generalizing x with
  | zero => exact ⟨rfl, rfl⟩
  | succ n ih => exact ih x.work

theorem latest_settle (hheld : (run pipeline moves).held = []) :
    (run pipeline moves).live.settle.Idle ∧
      (run pipeline moves).live.settle.latest = .ofTexts pipeline (takenTexts moves) := by
  have hidle := Live.idle_settle (invariant_run pipeline moves).2.running
  refine ⟨hidle, ?_⟩
  obtain ⟨hlive, hstill⟩ :=
    foldl_work (run pipeline moves) ((run pipeline moves).live.queue.length + 3)
  rw [run, ← List.foldl_append] at hlive hstill
  have htexts (n : Nat) : takenTexts (moves ++ List.replicate n .work) = takenTexts moves := by
    simp [takenTexts, List.filterMap_replicate_of_none]
  have hlatest := latest_of_idle (hstill.trans hheld) (hlive ▸ hidle)
  rw [htexts] at hlatest
  exact (congrArg Live.latest hlive).symm.trans hlatest

end Exchange

/-- **A live preview agrees with a view state**, whoever submits the texts and whenever the worker
moves. Once every edit was sent and the worker is done, which it is after a while when it is left
alone, it has published the tree and the HTML that a view state has after edits to the same texts
in turn. So it has after any batches, each drained before the next is submitted. -/
theorem live_agrees (pipeline : Pipeline) (mode : ViewMode) :
    (∀ moves : List Move,
      let x := Exchange.run pipeline moves
      x.held = [] →
        (x.live.Idle → x.live.Agrees pipeline mode (takenTexts moves)) ∧
        x.live.settle.Idle ∧ x.live.settle.Agrees pipeline mode (takenTexts moves)) ∧
    ∀ batches : List (List String),
      let live := ({ pipeline } : Live).drainBatches batches
      live.Idle ∧ live.Agrees pipeline mode batches.flatten := by
  refine ⟨fun moves hheld => ⟨fun hidle => ?_, ?_⟩, fun batches => ?_⟩
  · exact Live.agrees_of_latest (Exchange.latest_of_idle hheld hidle)
  · obtain ⟨hidle, hlatest⟩ := Exchange.latest_settle hheld
    exact ⟨hidle, Live.agrees_of_latest hlatest⟩
  · obtain ⟨hidle, hlatest⟩ := Live.latest_drainBatches pipeline batches
    exact ⟨hidle, Live.agrees_of_latest hlatest⟩

/-- Two texts of which the later is sent first, and the worker takes both together. -/
def overtaking : List Move :=
  [.take "a", .take "", .send 1, .work, .send 0, .work, .work, .work]

theorem live_agrees_overtaking :
    (Exchange.run {} overtaking).held = [] ∧ (Exchange.run {} overtaking).live.Idle ∧
      (Exchange.run {} overtaking).live.Agrees {} .code ["a", ""] := by
  have hheld : (Exchange.run {} overtaking).held = [] := rfl
  have hidle : (Exchange.run {} overtaking).live.Idle := ⟨rfl, rfl⟩
  exact ⟨hheld, hidle, ((live_agrees {} .code).1 overtaking hheld).1 hidle⟩

-- the worker skips the first text and the view state the second, which it does not count
example : (({} : Live).drainBatches [["a", "a"], [""]]).latest.revision = 3 ∧
    (ViewSession.run {} .code (["a", "a", ""].map .edit)).state.snapshot.revision = 2 := ⟨rfl, rfl⟩

end MarkView
