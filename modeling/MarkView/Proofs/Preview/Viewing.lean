import MarkView.Preview.ViewState
import Mathlib.Data.List.Induction
/-!
# What a view state shows

A view state is used in three ways: its text is edited, its view is switched, and its snapshot is
handed out. What it shows after any calls can be read off the calls alone: the text edited last,
the number of edits that changed the text (`changes`), and the view chosen last. `Tracks` says so
of a session and is kept by every call; `shown_after` reads all of it off a run.

The first snapshot is not made by rendering, so `Pipeline.render_empty` is needed to count it as a
rendition of the text that there is at the start. No more is used of the parser that a pipeline
carries, here or of live previews and watched documents, so what is shown holds with any.
-/

namespace MarkView

/-! ## The texts of some edits -/

/-- The last of some texts, or the empty text before the first. -/
def lastText (texts : List String) : String := texts.getLastD ""

/-- How many of some texts differ from the one before them, the first from the empty text. -/
def changes (texts : List String) : Nat :=
  (("" :: texts).zip texts).countP fun (before, text) => text ≠ before

@[simp] theorem lastText_concat (texts : List String) (text : String) :
    lastText (texts ++ [text]) = text := List.getLastD_concat

/-- Each text with the one before it. -/
theorem zip_cons_concat (first : String) (texts : List String) (text : String) :
    (first :: (texts ++ [text])).zip (texts ++ [text]) =
      (first :: texts).zip texts ++ [(texts.getLastD first, text)] := by
  induction texts generalizing first with
  | nil => rfl
  | cons next rest ih =>
    rw [List.cons_append, List.zip_cons_cons, ih next, List.zip_cons_cons, List.cons_append,
      List.getLastD_cons]

theorem changes_concat (texts : List String) (text : String) :
    changes (texts ++ [text]) = changes texts + if text = lastText texts then 0 else 1 := by
  rw [changes, zip_cons_concat, List.countP_append, List.countP_singleton]
  simp [changes, lastText]

/-! ## Calls -/

/-- A use of a view state. -/
inductive ViewCall
  | edit (text : String)
  | setView (mode : ViewMode)
  | snapshot
  deriving DecidableEq, Repr, Inhabited

namespace ViewCall

/-- The text of an edit. -/
def text? : ViewCall → Option String
  | .edit text => some text
  | _ => none

/-- The view that a call switches to. -/
def mode? : ViewCall → Option ViewMode
  | .setView mode => some mode
  | _ => none

end ViewCall

/-- The texts that some calls edit to. -/
def editedTexts (calls : List ViewCall) : List String := calls.filterMap ViewCall.text?

/-- The view chosen last, or the one at the start. -/
def chosenMode (start : ViewMode) (calls : List ViewCall) : ViewMode :=
  (calls.filterMap ViewCall.mode?).getLastD start

/-- The snapshot that some calls lead to. -/
def snapshotAfter (pipeline : Pipeline) (calls : List ViewCall) : Snapshot :=
  ⟨changes (editedTexts calls), pipeline.render (lastText (editedTexts calls))⟩

section Calls

variable {calls : List ViewCall} {call : ViewCall}

theorem editedTexts_edit (calls : List ViewCall) (text : String) :
    editedTexts (calls ++ [.edit text]) = editedTexts calls ++ [text] := by
  simp [editedTexts, ViewCall.text?]

theorem editedTexts_concat_of_text?_none (h : call.text? = none) :
    editedTexts (calls ++ [call]) = editedTexts calls := by
  simp [editedTexts, h]

theorem snapshotAfter_concat_of_text?_none {pipeline : Pipeline} (h : call.text? = none) :
    snapshotAfter pipeline (calls ++ [call]) = snapshotAfter pipeline calls := by
  rw [snapshotAfter, editedTexts_concat_of_text?_none h]
  rfl

/-- An edit to the text that is there leads to no other snapshot. -/
theorem snapshotAfter_edit (pipeline : Pipeline) (calls : List ViewCall) (text : String) :
    snapshotAfter pipeline (calls ++ [.edit text]) =
      if text = lastText (editedTexts calls) then snapshotAfter pipeline calls
      else ⟨(snapshotAfter pipeline calls).revision + 1, pipeline.render text⟩ := by
  rw [snapshotAfter, editedTexts_edit, changes_concat, lastText_concat]
  split
  · next h => rw [h]; rfl
  · rfl

end Calls

namespace ViewState

variable {state : ViewState} {text : String}

theorem edit_of_eq (h : text = state.document) : state.edit text = (false, state) := if_pos h

theorem edit_of_ne (h : text ≠ state.document) :
    state.edit text = (true, { state with
      document := text
      snapshot := ⟨state.snapshot.revision + 1, state.pipeline.render text⟩ }) := if_neg h

theorem edit_changed (state : ViewState) (text : String) :
    (state.edit text).1 = decide (text ≠ state.document) := by
  by_cases h : text = state.document
  · rw [edit_of_eq h, decide_eq_false (not_not_intro h)]
  · rw [edit_of_ne h, decide_eq_true h]

theorem edit_snapshot (state : ViewState) (text : String) :
    (state.edit text).2.snapshot =
      if text = state.document then state.snapshot
      else ⟨state.snapshot.revision + 1, state.pipeline.render text⟩ := by
  unfold edit
  split <;> rfl

/-- An edit does the same in every view. -/
theorem edit_setView (state : ViewState) (text : String) (mode : ViewMode) :
    ((state.setView mode).edit text).2 = (state.edit text).2.setView mode := by
  by_cases h : text = state.document
  · have hswitched : text = (state.setView mode).document := h
    rw [edit_of_eq h, edit_of_eq hswitched]
  · have hswitched : text ≠ (state.setView mode).document := h
    rw [edit_of_ne h, edit_of_ne hswitched]
    rfl

end ViewState

/-- A view state, and the snapshots of it that were handed out. -/
structure ViewSession where
  state : ViewState
  handed : List Snapshot := []

namespace ViewSession

/-- One call. -/
def step (session : ViewSession) : ViewCall → ViewSession
  | .edit text => { session with state := (session.state.edit text).2 }
  | .setView mode => { session with state := session.state.setView mode }
  | .snapshot => { session with handed := session.handed ++ [session.state.snapshot] }

/-- A view state after some calls. -/
def run (pipeline : Pipeline) (mode : ViewMode) (calls : List ViewCall) : ViewSession :=
  calls.foldl step { state := { pipeline, active := mode } }

variable {session : ViewSession} {pipeline : Pipeline} {mode : ViewMode} {before : List ViewCall}

theorem run_concat (pipeline : Pipeline) (mode : ViewMode) (calls : List ViewCall)
    (call : ViewCall) :
    run pipeline mode (calls ++ [call]) = (run pipeline mode calls).step call := by
  rw [run, List.foldl_append]
  rfl

/-! ## One call -/

/-- The session after the given calls. -/
structure Tracks (pipeline : Pipeline) (mode : ViewMode) (before : List ViewCall)
    (session : ViewSession) : Prop where
  pipeline_eq : session.state.pipeline = pipeline
  document : session.state.document = lastText (editedTexts before)
  snapshot : session.state.snapshot = snapshotAfter pipeline before
  active : session.state.active = chosenMode mode before
  length_handed : session.handed.length = before.count .snapshot
  handed : ∀ i, before[i]? = some .snapshot →
    session.handed[(before.take i).count .snapshot]? = some (snapshotAfter pipeline (before.take i))

theorem Tracks.init (pipeline : Pipeline) (mode : ViewMode) :
    Tracks pipeline mode [] { state := { pipeline, active := mode } } where
  pipeline_eq := rfl
  document := rfl
  snapshot := congrArg (Snapshot.mk 0) pipeline.render_empty.symm
  active := rfl
  length_handed := rfl
  handed := by simp

theorem step_handed (session : ViewSession) (call : ViewCall) :
    (session.step call).handed =
      session.handed ++ if call = .snapshot then [session.state.snapshot] else [] := by
  cases call <;> simp [step]

/-- What was handed out before a call stays as it is. -/
theorem Tracks.handed_step (h : Tracks pipeline mode before session) (call : ViewCall) (i : Nat)
    (hi : (before ++ [call])[i]? = some .snapshot) :
    (session.step call).handed[((before ++ [call]).take i).count .snapshot]? =
      some (snapshotAfter pipeline ((before ++ [call]).take i)) := by
  rw [step_handed]
  obtain ⟨hlt, -⟩ := List.getElem?_eq_some_iff.mp hi
  rw [List.length_append, List.length_singleton, Nat.lt_succ_iff_lt_or_eq] at hlt
  rcases hlt with hlt | rfl
  · rw [List.getElem?_append_left hlt] at hi
    have hbefore := h.handed i hi
    obtain ⟨hindex, -⟩ := List.getElem?_eq_some_iff.mp hbefore
    rw [List.take_append_of_le_length (Nat.le_of_lt hlt), List.getElem?_append_left hindex, hbefore]
  · -- the last call hands out the snapshot that all calls before it lead to
    obtain rfl : call = .snapshot := by simpa using hi
    rw [List.take_left, ← h.length_handed, if_pos rfl, List.getElem?_concat_length, h.snapshot]

theorem Tracks.length_handed_step (h : Tracks pipeline mode before session) (call : ViewCall) :
    (session.step call).handed.length = (before ++ [call]).count .snapshot := by
  rw [step_handed, List.length_append, h.length_handed, List.count_append]
  cases call <;> rfl

theorem Tracks.edit (h : Tracks pipeline mode before session) (text : String) :
    Tracks pipeline mode (before ++ [.edit text]) (session.step (.edit text)) where
  pipeline_eq := by rw [step, ViewState.edit_pipeline, h.pipeline_eq]
  document := by rw [step, ViewState.edit_document, editedTexts_edit, lastText_concat]
  snapshot := by
    rw [snapshotAfter_edit, ← h.snapshot, ← h.document, ← h.pipeline_eq]
    exact session.state.edit_snapshot text
  active := by
    rw [step, ViewState.edit_active, h.active]
    simp [chosenMode, ViewCall.mode?]
  length_handed := h.length_handed_step _
  handed := h.handed_step _

theorem Tracks.setView (h : Tracks pipeline mode before session) (other : ViewMode) :
    Tracks pipeline mode (before ++ [.setView other]) (session.step (.setView other)) where
  pipeline_eq := h.pipeline_eq
  document := by
    rw [editedTexts_concat_of_text?_none rfl]
    exact h.document
  snapshot := by
    rw [snapshotAfter_concat_of_text?_none rfl]
    exact h.snapshot
  active := by simp [step, ViewState.setView, chosenMode, ViewCall.mode?]
  length_handed := h.length_handed_step _
  handed := h.handed_step _

theorem Tracks.takeSnapshot (h : Tracks pipeline mode before session) :
    Tracks pipeline mode (before ++ [.snapshot]) (session.step .snapshot) where
  pipeline_eq := h.pipeline_eq
  document := by
    rw [editedTexts_concat_of_text?_none rfl]
    exact h.document
  snapshot := by
    rw [snapshotAfter_concat_of_text?_none rfl]
    exact h.snapshot
  active := by
    rw [step, h.active]
    simp [chosenMode, ViewCall.mode?]
  length_handed := h.length_handed_step _
  handed := h.handed_step _

/-- **Every call keeps track.** -/
theorem Tracks.step (h : Tracks pipeline mode before session) (call : ViewCall) :
    Tracks pipeline mode (before ++ [call]) (session.step call) := by
  cases call with
  | edit text => exact h.edit text
  | setView other => exact h.setView other
  | snapshot => exact h.takeSnapshot

/-! ## Whole runs -/

theorem tracks_run (pipeline : Pipeline) (mode : ViewMode) (calls : List ViewCall) :
    Tracks pipeline mode calls (run pipeline mode calls) := by
  induction calls using List.reverseRecOn with
  | nil => exact .init pipeline mode
  | append_singleton before call ih =>
    rw [run_concat]
    exact ih.step call

/-- A session with the view that is chosen left out of account. -/
def viewless (session : ViewSession) : ViewSession :=
  { session with state := session.state.setView .preview }

/-- No call depends on the view. -/
theorem viewless_step (session : ViewSession) (call : ViewCall) :
    (session.viewless.step call).viewless = (session.step call).viewless := by
  cases call with
  | edit text => rw [step, viewless, viewless, ViewState.edit_setView]; rfl
  | setView mode => rfl
  | snapshot => rfl

theorem viewless_step_of_mode? {call : ViewCall} (h : call.mode? ≠ none) :
    (session.step call).viewless = session.viewless := by
  cases call with
  | setView mode => rfl
  | edit _ | snapshot => exact absurd rfl h

/-- **Switching the view changes nothing else.** -/
theorem viewless_run_filter (pipeline : Pipeline) (mode : ViewMode) (calls : List ViewCall) :
    (run pipeline mode (calls.filter (·.mode? = none))).viewless =
      (run pipeline mode calls).viewless := by
  induction calls using List.reverseRecOn with
  | nil => rfl
  | append_singleton before call ih =>
    rw [List.filter_append, run_concat]
    by_cases hmode : call.mode? = none
    · rw [List.filter_cons_of_pos (by simpa using hmode), List.filter_nil, run_concat,
        ← viewless_step, ih, viewless_step]
    · rw [List.filter_cons_of_neg (by simpa using hmode), List.filter_nil, List.append_nil, ih,
        viewless_step_of_mode? hmode]

/-- **A view state shows the text edited last**, after any calls. Its document is that text, or
empty before the first edit; its snapshot is the rendition of it, under the number of edits that
changed the text; an edit tells whether it does, and changes nothing if it does not; the view
shown is the tree or the HTML of this snapshot, as the view was chosen last. What was handed out
is what the snapshot was then, whatever is called later, and none of this depends on switches of
the view. -/
theorem shown_after (pipeline : Pipeline) (mode : ViewMode) (calls : List ViewCall) :
    let session := run pipeline mode calls
    let document := lastText (editedTexts calls)
    session.state.document = document ∧
    session.state.snapshot.rendition = pipeline.render document ∧
    session.state.snapshot.revision = changes (editedTexts calls) ∧
    (∀ text, (session.state.edit text).1 = decide (text ≠ document) ∧
      (text = document → (session.state.edit text).2 = session.state)) ∧
    session.state.visible = (match chosenMode mode calls with
      | .preview => .preview session.state.snapshot.tree
      | .code => .code session.state.snapshot.html) ∧
    session.handed.length = calls.count .snapshot ∧
    (∀ i, calls[i]? = some .snapshot →
      session.handed[(calls.take i).count .snapshot]? =
        some (run pipeline mode (calls.take i)).state.snapshot) ∧
    let still := run pipeline mode (calls.filter (·.mode? = none))
    still.state.snapshot = session.state.snapshot ∧ still.handed = session.handed := by
  have h := tracks_run pipeline mode calls
  have hviewless := viewless_run_filter pipeline mode calls
  refine ⟨h.document, ?_, ?_, fun text => ⟨?_, ?_⟩, ?_, h.length_handed, ?_, ?_, ?_⟩
  · rw [h.snapshot]
    rfl
  · rw [h.snapshot]
    rfl
  · rw [← h.document, ViewState.edit_changed]
  · intro htext
    rw [ViewState.edit_of_eq (htext.trans h.document.symm)]
  · rw [ViewState.visible, h.active]
    cases chosenMode mode calls <;> rfl
  · intro i hi
    rw [h.handed i hi, (tracks_run pipeline mode (calls.take i)).snapshot]
  · exact congrArg (·.state.snapshot) hviewless
  · exact congrArg (·.handed) hviewless

/-- An edit back to the empty text, after a snapshot was handed out. -/
def editBack : List ViewCall := [.edit "a", .snapshot, .setView .code, .edit "a", .edit ""]

theorem shown_after_editBack :
    editBack[1]? = some .snapshot ∧
      (run {} .preview editBack).handed[0]? =
        some (run {} .preview [.edit "a"]).state.snapshot := by
  obtain ⟨-, -, -, -, -, -, hhanded, -⟩ := shown_after {} .preview editBack
  exact ⟨rfl, hhanded 1 rfl⟩

end ViewSession

end MarkView
