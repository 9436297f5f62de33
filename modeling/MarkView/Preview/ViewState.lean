import MarkView.Preview.Snapshot
/-!
# View state

A document with its latest snapshot and the view that is active. An edit that changes
the text renders at once; a change of the view renders nothing.
-/

namespace MarkView

/-- A document, what it was last rendered to, and which view of that is shown. -/
structure ViewState where
  pipeline : Pipeline := {}
  document : String := ""
  snapshot : Snapshot := .initial
  active : ViewMode := .preview
  deriving Inhabited

namespace ViewState

/-- Replace the text. Tells whether it changed. -/
def edit (state : ViewState) (text : String) : Bool × ViewState :=
  if text = state.document then (false, state)
  else
    (true,
      { state with
        document := text
        snapshot := ⟨state.snapshot.revision + 1, state.pipeline.render text⟩ })

/-- Show another view. -/
def setView (state : ViewState) (mode : ViewMode) : ViewState := { state with active := mode }

/-- What is shown. -/
def visible (state : ViewState) : View := state.snapshot.view state.active

@[simp] theorem edit_document (state : ViewState) (text : String) :
    (state.edit text).2.document = text := by
  unfold edit
  split
  · next h => exact h.symm
  · rfl

@[simp] theorem edit_pipeline (state : ViewState) (text : String) :
    (state.edit text).2.pipeline = state.pipeline := by
  unfold edit
  split <;> rfl

@[simp] theorem edit_active (state : ViewState) (text : String) :
    (state.edit text).2.active = state.active := by
  unfold edit
  split <;> rfl

end ViewState

end MarkView
