/-!
# Gathering changes

Programs that save a file may touch it many times. All changes that follow each other
within a window of time are folded into one, which is ready once the window has passed
without another. Times and windows are in the same unit, counted from any moment.
-/

namespace MarkView

/-- What happened to a file. -/
inductive ChangeKind
  | created
  | modified
  | removed
  deriving DecidableEq, Repr, Inhabited

/-- The name of a kind of change. -/
def ChangeKind.name : ChangeKind → String
  | .created => "created"
  | .modified => "modified"
  | .removed => "removed"

/-- The kind of change with a name. -/
def ChangeKind.ofName? : String → Option ChangeKind
  | "created" => some .created
  | "modified" => some .modified
  | "removed" => some .removed
  | _ => none

/-- One change and a later one as a single change. A file that was created and removed
again did not change. A removed file that is there again was modified. -/
def ChangeKind.merge? : ChangeKind → ChangeKind → Option ChangeKind
  | .created, .removed => none
  | .created, .created => some .created
  | .created, .modified => some .created
  | .modified, .created => some .created
  | .modified, .modified => some .modified
  | .modified, .removed => some .removed
  | .removed, .created => some .modified
  | .removed, .modified => some .removed
  | .removed, .removed => some .removed

/-- A change that waits for its window to pass. -/
structure PendingChange where
  kind : ChangeKind
  deadline : Nat
  deriving DecidableEq, Repr, Inhabited

/-- Gathers the changes of one file. -/
structure Debouncer where
  window : Nat
  pending : Option PendingChange := none
  deriving DecidableEq, Repr, Inhabited

namespace Debouncer

/-- The kind of what is pending after one more change. -/
def foldIn (pending : Option ChangeKind) (kind : ChangeKind) : Option ChangeKind :=
  match pending with
  | none => some kind
  | some before => before.merge? kind

/-- Take in a change that happens now. The window starts again. -/
def record (debouncer : Debouncer) (now : Nat) (kind : ChangeKind) : Debouncer :=
  { debouncer with
    pending := (foldIn (debouncer.pending.map (·.kind)) kind).map
      fun kind => ⟨kind, now + debouncer.window⟩ }

/-- The change that is ready now, which is then forgotten. -/
def takeReady (debouncer : Debouncer) (now : Nat) : Option ChangeKind × Debouncer :=
  match debouncer.pending with
  | none => (none, debouncer)
  | some pending =>
    if now < pending.deadline then (none, debouncer)
    else (some pending.kind, { debouncer with pending := none })

@[simp] theorem record_kind (debouncer : Debouncer) (now : Nat) (kind : ChangeKind) :
    (debouncer.record now kind).pending.map (·.kind) =
      foldIn (debouncer.pending.map (·.kind)) kind := by
  simp [record, Function.comp_def]

section TakeReady

variable {debouncer : Debouncer} {now : Nat} {kind : ChangeKind}

/-- What is taken is what waits, if its window has passed. -/
theorem takeReady_eq_some_iff : (debouncer.takeReady now).1 = some kind ↔
    ∃ pending, debouncer.pending = some pending ∧ pending.kind = kind ∧ pending.deadline ≤ now := by
  unfold takeReady
  cases debouncer.pending with
  | none => simp
  | some pending =>
    by_cases hlater : now < pending.deadline
    · simp [hlater]
    · simp [hlater, Nat.le_of_not_lt hlater]

/-- A take that finds nothing changes nothing. -/
theorem takeReady_of_none (h : (debouncer.takeReady now).1 = none) :
    debouncer.takeReady now = (none, debouncer) := by
  unfold takeReady at h ⊢
  cases hpending : debouncer.pending with
  | none => rfl
  | some pending =>
    rw [hpending] at h
    by_cases hlater : now < pending.deadline
    · exact if_pos hlater
    · simp [hlater] at h

/-- What is taken is forgotten. -/
theorem takeReady_of_some (h : (debouncer.takeReady now).1 = some kind) :
    debouncer.takeReady now = (some kind, { debouncer with pending := none }) := by
  obtain ⟨pending, hpending, rfl, hpassed⟩ := takeReady_eq_some_iff.mp h
  simp [takeReady, hpending, Nat.not_lt.mpr hpassed]

end TakeReady

end Debouncer

end MarkView
