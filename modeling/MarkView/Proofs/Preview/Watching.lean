import MarkView.Preview.Watcher
import MarkView.Proofs.Preview.Publication
import Mathlib.Data.List.Induction
/-!
# A watched document and its preview

A file changes, the system tells of its changes one after the other, and a watcher polls in
between, all in any order. `Watching` is a watcher in the middle of that, with what the system has
still to tell, and `Watching.run` plays the moves.

What a poll finds is all that was recorded since the poll before that found something
(`gathered`), folded into one change. A document that exists is read again then, and its text is
submitted, unless the fold says that it was removed. So the preview has the text of the document
once all is told and the window has passed, with one exception (`lastSent_eq_iff`): a removal that
is followed by modifications only. Moving a file to the place of one that was removed is told that
way, and its text is not seen.
-/

namespace MarkView

/-! ## Changes folded into one -/

/-- What some changes are folded into, if anything is left of them. -/
def gather (kinds : List ChangeKind) : Option ChangeKind := kinds.foldl Debouncer.foldIn none

/-- The document was removed, which cancelled no creation, and after that only modified. -/
def Overlooked (kinds : List ChangeKind) : Prop :=
  ∃ earlier later, kinds = earlier ++ .removed :: later ∧ gather earlier ≠ some .created ∧
    ∀ kind ∈ later, kind = .modified

section Gather

variable {kinds : List ChangeKind} {kind : ChangeKind}

@[simp] theorem gather_concat :
    gather (kinds ++ [kind]) = Debouncer.foldIn (gather kinds) kind := by
  simp [gather]

/-- One more change counts as a removal if it is one that cancels nothing, or if it is a
modification after one. -/
theorem foldIn_eq_removed_iff (before : Option ChangeKind) :
    Debouncer.foldIn before kind = some .removed ↔
      kind = .removed ∧ before ≠ some .created ∨ kind = .modified ∧ before = some .removed := by
  rcases before with _ | (_ | _ | _) <;> cases kind <;> decide

/-- **Changes are taken for a removal just when one is overlooked.** -/
theorem gather_eq_removed_iff : gather kinds = some .removed ↔ Overlooked kinds := by
  induction kinds using List.reverseRecOn with
  | nil =>
    refine ⟨fun h => (by cases h), ?_⟩
    rintro ⟨earlier, later, h, -⟩
    simp at h
  | append_singleton kinds kind ih =>
    rw [gather_concat, foldIn_eq_removed_iff, ih]
    constructor
    · rintro (⟨rfl, hbefore⟩ | ⟨rfl, earlier, later, rfl, hbefore, hlater⟩)
      · exact ⟨kinds, [], rfl, hbefore, by simp⟩
      · refine ⟨earlier, later ++ [.modified], by simp, hbefore, ?_⟩
        rw [List.forall_mem_append]
        exact ⟨hlater, by simp⟩
    · rintro ⟨earlier, later, h, hbefore, hlater⟩
      -- the change is the removal itself, or one of the modifications after it
      cases later using List.reverseRecOn with
      | nil =>
        obtain ⟨rfl, hkind⟩ := List.append_inj' h rfl
        exact .inl ⟨List.head_eq_of_cons_eq hkind, hbefore⟩
      | append_singleton later last =>
        rw [List.forall_mem_append, List.forall_mem_singleton] at hlater
        rw [← List.cons_append, ← List.append_assoc] at h
        obtain ⟨rfl, hlast⟩ := List.append_inj' h rfl
        refine .inr ⟨(List.head_eq_of_cons_eq hlast).trans hlater.2, ?_⟩
        exact ⟨earlier, later, rfl, hbefore, hlater.1⟩

/-- Something is left of changes, unless the last of them is a removal. -/
theorem gather_ne_none (hne : kinds ≠ []) (h : kinds.getLast? ≠ some .removed) :
    gather kinds ≠ none := by
  rcases List.eq_nil_or_concat kinds with rfl | ⟨earlier, last, rfl⟩
  · exact absurd rfl hne
  · rw [List.concat_eq_append, List.getLast?_concat] at h
    rw [List.concat_eq_append, gather_concat]
    rcases gather earlier with _ | (_ | _ | _) <;> cases last <;> simp_all [Debouncer.foldIn,
      ChangeKind.merge?]

end Gather

/-! ## The text of a document -/

namespace FileTable

variable {files : FileTable} {place other : Location} {text : String}

theorem textAt_eq_ok_iff : files.textAt place = .ok text ↔
    ∃ content, files.find? place = some (.file content) ∧ String.fromUTF8? content = some text := by
  unfold textAt
  split
  · next hnone => simp [hnone]
  · next hdirectory => simp [hdirectory]
  · next content hfile =>
    split
    · next text' htext => simp [hfile, htext]
    · next hnone => simp [hfile, hnone]

/-- Directories are made where nothing is, so no file changes by that. -/
theorem find?_addDirectory {content : ByteArray} :
    (files.addDirectory other).find? place = some (.file content) ↔
      files.find? place = some (.file content) := by
  induction other with
  | nil => rfl
  | cons name above ih =>
    rw [addDirectory]
    cases hthere : (files.addDirectory above).find? (name :: above) with
    | some entry => exact ih
    | none =>
      by_cases hplace : place = name :: above
      · rw [hplace] at ih ⊢
        rw [hthere] at ih
        simp only [find?_put_self _ _ (List.cons_ne_nil name above)]
        simpa using ih
      · simp only [find?_put_of_ne _ _ hplace]
        exact ih

theorem textAt_addFile_of_ne {content : ByteArray} (h : place ≠ other) :
    (files.addFile other content).textAt place = .ok text ↔ files.textAt place = .ok text := by
  rw [textAt_eq_ok_iff, textAt_eq_ok_iff]
  simp only [addFile, find?_put_of_ne _ _ h, find?_addDirectory]

theorem textAt_erase_of_ne (h : place ≠ other) :
    (files.erase other).textAt place = files.textAt place := by
  rw [textAt, textAt, find?_erase_of_ne files h]

/-- Nothing is read where something was removed. -/
theorem textAt_erase_self : (files.erase place).textAt place ≠ .ok text := by
  intro h
  obtain ⟨content, hfile, -⟩ := textAt_eq_ok_iff.mp h
  cases place with
  | nil => cases hfile
  | cons name above =>
    rw [find?_erase_self files (List.cons_ne_nil name above)] at hfile
    cases hfile

end FileTable

namespace FileChange

variable {files : FileTable} {place : Location} {text : String} {change : FileChange}

/-- A change of another file does not change what is read. -/
theorem textAt_apply_of_ne (h : change.place ≠ place) :
    (change.apply files).textAt place = .ok text ↔ files.textAt place = .ok text := by
  cases change with
  | remove other =>
    have hplace : place ≠ other := fun heq => h heq.symm
    rw [apply, FileTable.textAt_erase_of_ne hplace]
  | create other content | write other content | moveOver other content =>
    exact FileTable.textAt_addFile_of_ne fun heq => h heq.symm

/-- A change is told of with its own place. -/
@[simp] theorem event_places (change : FileChange) : change.event.places = [change.place] := by
  cases change <;> rfl

/-- What is told of as a removal leaves nothing to be read. -/
theorem textAt_apply_of_removed (hplace : change.place = place)
    (h : change.event.kind = .removed) : (change.apply files).textAt place ≠ .ok text := by
  cases change with
  | remove other =>
    obtain rfl : other = place := hplace
    exact FileTable.textAt_erase_self
  | create other content | write other content | moveOver other content => cases h

end FileChange

/-! ## Polls -/

/-- A text that is submitted waits behind all others, while the worker runs. -/
theorem Live.submit_of_isRunning {live : Live} (h : live.isRunning = true) (text : String) :
    (live.submit text).2 =
      { live with next := live.next + 1, queue := live.queue ++ [⟨live.next, text⟩] } :=
  if_pos h

namespace Watcher

variable {watcher : Watcher} {debouncer : Debouncer} {last : String} {now : Nat}
  {files : FileTable} {live : Live}

/-- The change that waits for its window to pass. -/
def pending? (watcher : Watcher) : Option PendingChange :=
  match watcher.stage with
  | .watching debouncer _ => debouncer.pending
  | _ => none

/-- Whether a poll finds a change that is ready. -/
def isReady (watcher : Watcher) (now : Nat) : Bool := watcher.pending?.any (·.deadline ≤ now)

/-- A poll that finds no change does nothing. -/
theorem poll_of_not_isReady (hstage : watcher.stage = .watching debouncer last)
    (h : watcher.isReady now = false) : watcher.poll now files live = (watcher, live) := by
  obtain ⟨place, window, stage⟩ := watcher
  obtain rfl : stage = .watching debouncer last := hstage
  have hnone : (debouncer.takeReady now).1 = none := by
    rw [Option.eq_none_iff_forall_ne_some]
    intro kind hkind
    obtain ⟨pending, hpending, -, hpassed⟩ := Debouncer.takeReady_eq_some_iff.mp hkind
    simp [isReady, pending?, hpending, hpassed] at h
  simp [poll, Debouncer.takeReady_of_none hnone]

/-- A poll that finds a change forgets it, and submits the text that it calls for. -/
theorem poll_of_isReady {pending : PendingChange}
    (hstage : watcher.stage = .watching debouncer last)
    (hpending : debouncer.pending = some pending)
    (h : pending.deadline ≤ now) :
    watcher.poll now files live =
      match newText? files watcher.place pending.kind last with
      | none => ({ watcher with stage := .watching { debouncer with pending := none } last }, live)
      | some text =>
        ({ watcher with stage := .watching { debouncer with pending := none } text },
          (live.submit text).2) := by
  have htake : debouncer.takeReady now =
      (some pending.kind, { debouncer with pending := none }) :=
    Debouncer.takeReady_of_some (Debouncer.takeReady_eq_some_iff.mpr ⟨pending, hpending, rfl, h⟩)
  rw [poll, hstage]
  cases hnew : newText? files watcher.place pending.kind last with
  | none => simp [htake, hnew]
  | some text => simp [htake, hnew]

/-- A document that can be read is submitted if its text is another, unless it counts as removed. -/
theorem newText?_of_textAt {place : Location} {kind : ChangeKind} {text : String}
    (htext : files.textAt place = .ok text) (hkind : kind ≠ .removed) :
    newText? files place kind last = if text = last then none else some text := by
  rw [newText?, if_neg hkind, htext]

/-- What is opened is a file below the root, and its text is read. -/
theorem openFile_eq_ok {here : Location} {path : String} {window : Nat} {opened : Watcher}
    (h : openFile files here path window = .ok opened) :
    ∃ place text, files.resolve here path = .ok place ∧ place ≠ [] ∧
      files.textAt place = .ok text ∧ opened = ⟨place, window, .opened text⟩ := by
  unfold openFile at h
  split at h
  · cases h
  · cases h
  · next place hroot hplace =>
    split at h
    · cases h
    · next text htext => exact ⟨place, text, hplace, hroot, htext, (Except.ok.inj h).symm⟩

/-- A file that can be read is opened. The root is none, so nothing else can go wrong. -/
theorem openFile_of_textAt {here place : Location} {path text : String} {window : Nat}
    (hplace : files.resolve here path = .ok place) (htext : files.textAt place = .ok text) :
    openFile files here path window = .ok ⟨place, window, .opened text⟩ := by
  rw [openFile, hplace]
  cases place with
  | nil => cases htext
  | cons name above => simp only [htext]

@[simp] theorem place_record (event : FileEvent) :
    (watcher.record now event).place = watcher.place := by
  unfold record
  split
  · split <;> rfl
  · rfl

@[simp] theorem place_poll : (watcher.poll now files live).1.place = watcher.place := by
  unfold poll
  split
  · split
    · rfl
    · split <;> rfl
  · rfl

/-- Events change what is gathered, and only those that tell of the document. -/
theorem record_eq (hstage : watcher.stage = .watching debouncer last) (event : FileEvent) :
    watcher.record now event =
      if watcher.place ∈ event.places then
        { watcher with stage := .watching (debouncer.record now event.kind) last }
      else watcher := by
  simp [record, hstage]

end Watcher

/-! ## Watching -/

/-- A watcher with the files around it and the preview that it feeds, at a time: what the system
has still to tell, the changes recorded since a poll last found one, and the edits that polls have
put into the queue of the preview. -/
structure Watching where
  files : FileTable
  watcher : Watcher
  live : Live
  untold : List FileEvent := []
  now : Nat := 0
  gathered : List ChangeKind := []
  sent : List Edit := []

/-- A move: a file changes, the next event is recorded, time passes, the watcher polls, or the
worker of the preview makes a step. -/
inductive WatchMove
  | change (change : FileChange)
  | record
  | wait (time : Nat)
  | poll
  | work

/-- A move that is no change of a document. -/
def WatchMove.Spares (place : Location) : WatchMove → Prop
  | .change made => made.place ≠ place
  | _ => True

namespace Watching

/-- The watcher takes in the next event. -/
def record (w : Watching) : Watching :=
  match w.untold with
  | [] => w
  | event :: rest =>
    { w with
      watcher := w.watcher.record w.now event
      untold := rest
      gathered := w.gathered ++ if event.places.contains w.watcher.place then [event.kind] else [] }

/-- The watcher polls. -/
def poll (w : Watching) : Watching :=
  let (watcher, live) := w.watcher.poll w.now w.files w.live
  { w with
    watcher
    live
    gathered := if w.watcher.isReady w.now then [] else w.gathered
    sent := w.sent ++ live.queue.drop w.live.queue.length }

/-- Make one move. -/
def step (w : Watching) : WatchMove → Watching
  | .change change =>
    { w with files := change.apply w.files, untold := w.untold ++ [change.event] }
  | .record => w.record
  | .wait time => { w with now := w.now + time }
  | .poll => w.poll
  | .work => { w with live := w.live.step }

/-- Make some moves, one after the other. -/
def run (w : Watching) (moves : List WatchMove) : Watching := moves.foldl step w

/-- Begin to watch a document of which the text is read. -/
def begin (files : FileTable) (place : Location) (window : Nat) (text : String) (live : Live) :
    Watching :=
  let (watcher, started) := Watcher.submitFirst ⟨place, window, .opened text⟩ live
  { files
    watcher := watcher.register
    live := started
    sent := started.queue.drop live.queue.length }

/-- The text submitted last. -/
def lastSent (w : Watching) : Option String := w.sent.getLast?.map (·.text)

/-- The changes of the document that the system has still to tell. -/
def owed (w : Watching) : List ChangeKind :=
  (w.untold.filter (·.places.contains w.watcher.place)).map (·.kind)

/-- The window has passed for what waits. -/
def WindowPassed (w : Watching) : Prop := ∀ pending ∈ w.watcher.pending?, pending.deadline ≤ w.now

instance (w : Watching) : Decidable w.WindowPassed :=
  inferInstanceAs (Decidable (∀ pending ∈ w.watcher.pending?, _))

/-- **This is how a watcher starts**: what `Watcher.start` leaves is where watching begins. -/
theorem start_eq_begin {files : FileTable} {here : Location} {path : String} {window : Nat}
    {live started : Live} {watcher : Watcher}
    (h : Watcher.start files here path window live = .ok (watcher, started)) :
    ∃ place text, files.resolve here path = .ok place ∧ place ≠ [] ∧
      files.textAt place = .ok text ∧
      watcher = (begin files place window text live).watcher ∧
        started = (begin files place window text live).live := by
  unfold Watcher.start at h
  cases hopen : Watcher.openFile files here path window with
  | error cause =>
    rw [hopen] at h
    cases h
  | ok opened =>
    rw [hopen] at h
    obtain ⟨rfl, rfl⟩ := Prod.mk.inj (Except.ok.inj h)
    obtain ⟨place, text, hplace, hroot, htext, rfl⟩ := Watcher.openFile_eq_ok hopen
    exact ⟨place, text, hplace, hroot, htext, rfl, rfl⟩

theorem place_step (w : Watching) (move : WatchMove) :
    (w.step move).watcher.place = w.watcher.place := by
  cases move with
  | record =>
    rw [step, record]
    split
    · rfl
    · exact Watcher.place_record _
  | poll => exact Watcher.place_poll
  | _ => rfl

theorem place_run (w : Watching) (moves : List WatchMove) :
    (w.run moves).watcher.place = w.watcher.place := by
  induction moves generalizing w with
  | nil => rfl
  | cons move rest ih => exact (ih (w.step move)).trans (place_step w move)

section Moves

variable {w : Watching} {debouncer : Debouncer} {last : String}

@[simp] theorem owed_step_change (change : FileChange) :
    (w.step (.change change)).owed =
      w.owed ++ if change.place = w.watcher.place then [change.event.kind] else [] := by
  have howed : (w.step (.change change)).owed = w.owed ++
      ([change.event].filter (·.places.contains w.watcher.place)).map (·.kind) := by
    rw [owed, step, List.filter_append, List.map_append]
    rfl
  rw [howed]
  by_cases hplace : change.place = w.watcher.place
  · simp [hplace]
  · simp [hplace, Ne.symm hplace]

theorem isReady_iff (hstage : w.watcher.stage = .watching debouncer last) :
    w.watcher.isReady w.now = true ↔
      ∃ pending, debouncer.pending = some pending ∧ pending.deadline ≤ w.now := by
  simp [Watcher.isReady, Watcher.pending?, hstage, Option.any_eq_true]

/-- A poll that finds no change does nothing. -/
theorem poll_of_not_isReady (hstage : w.watcher.stage = .watching debouncer last)
    (h : w.watcher.isReady w.now = false) : w.poll = w := by
  simp [poll, Watcher.poll_of_not_isReady hstage h, h]

/-- A poll that finds a change is done with all that was gathered. -/
theorem poll_of_isReady {pending : PendingChange} (hrunning : w.live.isRunning = true)
    (hstage : w.watcher.stage = .watching debouncer last)
    (hpending : debouncer.pending = some pending)
    (h : pending.deadline ≤ w.now) :
    w.poll =
      match Watcher.newText? w.files w.watcher.place pending.kind last with
      | none =>
        { w with
          watcher := { w.watcher with stage := .watching { debouncer with pending := none } last }
          gathered := [] }
      | some text =>
        { w with
          watcher := { w.watcher with stage := .watching { debouncer with pending := none } text }
          live := (w.live.submit text).2
          gathered := []
          sent := w.sent ++ [⟨w.live.next, text⟩] } := by
  have hready : w.watcher.isReady w.now = true := by
    simp [Watcher.isReady, Watcher.pending?, hstage, hpending, h]
  rw [poll, Watcher.poll_of_isReady hstage hpending h, hready]
  cases Watcher.newText? w.files w.watcher.place pending.kind last with
  | none => simp
  | some text => simp [Live.submit_of_isRunning hrunning]

end Moves

variable {w : Watching}

/-- **What a watcher in the middle of moves keeps**: its window holds what was gathered, folded
into one change, and the text that it compares with is the one submitted last. If the latest change
that it is told of, or will be, is a removal, then the document has no text. -/
structure Attentive (w : Watching) : Prop where
  watching : ∃ debouncer last, w.watcher.stage = .watching debouncer last ∧
    debouncer.pending.map (·.kind) = gather w.gathered ∧ w.lastSent = some last
  running : w.live.isRunning = true
  removed : (w.gathered ++ w.owed).getLast? = some .removed →
    ∀ text, w.files.textAt w.watcher.place ≠ .ok text

namespace Attentive

theorem begin {files : FileTable} {place : Location} {window : Nat} {text : String} {live : Live}
    (h : live.isRunning = true) : (begin files place window text live).Attentive := by
  have hlive := Live.submit_of_isRunning h text
  refine ⟨⟨⟨window, none⟩, text, rfl, rfl, ?_⟩, ?_, fun hlast => (by cases hlast)⟩
  · simp [Watching.begin, Watcher.submitFirst, lastSent, hlive]
  · simp only [Watching.begin, Watcher.submitFirst, hlive]
    exact h

/-- A change of the document is owed, and one of another file does not matter. -/
theorem change (h : w.Attentive) (change : FileChange) :
    (w.step (.change change)).Attentive := by
  refine ⟨h.watching, h.running, fun hlast text => ?_⟩
  rw [owed_step_change, ← List.append_assoc] at hlast
  by_cases hplace : change.place = w.watcher.place
  · rw [if_pos hplace] at hlast
    have hkind : change.event.kind = .removed := by
      simpa [Watching.step, List.getLast?_append] using hlast
    exact FileChange.textAt_apply_of_removed hplace hkind
  · rw [if_neg hplace, List.append_nil] at hlast
    have hgone := h.removed hlast text
    exact fun htext => hgone ((FileChange.textAt_apply_of_ne hplace).mp htext)

/-- An event that is recorded is no longer owed. -/
theorem record (h : w.Attentive) : w.record.Attentive := by
  obtain ⟨debouncer, last, hstage, hpending, hlast⟩ := h.watching
  cases huntold : w.untold with
  | nil =>
    have hsame : w.record = w := by simp [Watching.record, huntold]
    rw [hsame]
    exact h
  | cons event rest =>
    have hremoved := h.removed
    by_cases hmem : w.watcher.place ∈ event.places
    · have hrecord : w.record = { w with
          watcher := { w.watcher with
            stage := .watching (debouncer.record w.now event.kind) last }
          untold := rest
          gathered := w.gathered ++ [event.kind] } := by
        simp [Watching.record, huntold, Watcher.record_eq hstage, hmem]
      rw [hrecord]
      refine ⟨⟨debouncer.record w.now event.kind, last, rfl, ?_, hlast⟩, h.running, ?_⟩
      · rw [Debouncer.record_kind, hpending, gather_concat]
      · simpa [owed, huntold, hmem] using hremoved
    · have hrecord : w.record = { w with untold := rest } := by
        simp [Watching.record, huntold, Watcher.record_eq hstage, hmem]
      rw [hrecord]
      refine ⟨⟨debouncer, last, hstage, hpending, hlast⟩, h.running, ?_⟩
      simpa [owed, huntold, hmem] using hremoved

theorem poll (h : w.Attentive) : w.poll.Attentive := by
  obtain ⟨debouncer, last, hstage, hpending, hlast⟩ := h.watching
  cases hready : w.watcher.isReady w.now with
  | false =>
    rw [poll_of_not_isReady hstage hready]
    exact h
  | true =>
    obtain ⟨pending, hwaits, hdeadline⟩ := isReady_iff hstage |>.mp hready
    have hremoved : w.owed.getLast? = some .removed →
        ∀ text, w.files.textAt w.watcher.place ≠ .ok text := by
      intro howed
      refine h.removed ?_
      rw [List.getLast?_append, howed]
      rfl
    rw [poll_of_isReady h.running hstage hwaits hdeadline]
    split
    · exact ⟨⟨_, last, rfl, rfl, hlast⟩, h.running, hremoved⟩
    · next text htext =>
      refine ⟨⟨_, text, rfl, rfl, ?_⟩, ?_, hremoved⟩
      · simp [lastSent]
      · rw [Live.submit_of_isRunning h.running]
        exact h.running

/-- **Every move keeps a watcher attentive.** -/
theorem step (h : w.Attentive) (move : WatchMove) : (w.step move).Attentive := by
  cases move with
  | change change => exact h.change change
  | record => exact h.record
  | wait time => exact ⟨h.watching, h.running, h.removed⟩
  | poll => exact h.poll
  | work =>
    refine ⟨h.watching, ?_, h.removed⟩
    rw [Watching.step, Live.step_isRunning]
    exact h.running

theorem run (h : w.Attentive) (moves : List WatchMove) : (w.run moves).Attentive := by
  induction moves generalizing w with
  | nil => exact h
  | cons move rest ih => exact ih (h.step move)

/-- **The poll that decides.** Once all changes of a document are recorded and the window has
passed, the text of the document is submitted, unless its changes are taken for a removal. -/
theorem lastSent_poll (h : w.Attentive) (howed : w.owed = []) (hgathered : w.gathered ≠ [])
    (hpassed : w.WindowPassed) {text : String}
    (htext : w.files.textAt w.watcher.place = .ok text) :
    w.poll.gathered = [] ∧ w.poll.owed = [] ∧
      w.poll.lastSent = if gather w.gathered = some .removed then w.lastSent else some text := by
  obtain ⟨debouncer, last, hstage, hpending, hlast⟩ := h.watching
  have hkept : w.gathered.getLast? ≠ some .removed := fun hremoved => by
    refine h.removed ?_ text htext
    rw [howed, List.append_nil, hremoved]
  obtain ⟨kind, hkind⟩ := Option.ne_none_iff_exists'.mp (gather_ne_none hgathered hkept)
  rw [hkind] at hpending ⊢
  obtain ⟨pending, hwaits, rfl⟩ := Option.map_eq_some_iff.mp hpending
  have hdeadline : pending.deadline ≤ w.now := hpassed pending (by
    simp [Watcher.pending?, hstage, hwaits])
  rw [poll_of_isReady h.running hstage hwaits hdeadline]
  by_cases hremoved : pending.kind = .removed
  · have hnone : Watcher.newText? w.files w.watcher.place pending.kind last = none :=
      if_pos hremoved
    rw [hnone, hremoved]
    exact ⟨rfl, howed, rfl⟩
  · have hkinds : ¬ some pending.kind = some ChangeKind.removed := by simpa using hremoved
    rw [if_neg hkinds, Watcher.newText?_of_textAt htext hremoved]
    by_cases hsame : text = last
    · rw [if_pos hsame, hsame]
      exact ⟨rfl, howed, hlast⟩
    · rw [if_neg hsame]
      exact ⟨rfl, howed, by simp [lastSent]⟩

/-- **While nothing is gathered or owed, nothing is submitted.** -/
theorem step_of_spares (h : w.Attentive) (hgathered : w.gathered = []) (howed : w.owed = [])
    {move : WatchMove} (hspares : move.Spares w.watcher.place) :
    (w.step move).gathered = [] ∧ (w.step move).owed = [] ∧
      (w.step move).lastSent = w.lastSent := by
  obtain ⟨debouncer, last, hstage, hpending, hlast⟩ := h.watching
  cases move with
  | change change =>
    have hplace : ¬ change.place = w.watcher.place := hspares
    refine ⟨hgathered, ?_, rfl⟩
    rw [owed_step_change, howed, if_neg hplace]
    rfl
  | record =>
    cases huntold : w.untold with
    | nil =>
      have hsame : w.record = w := by simp [Watching.record, huntold]
      rw [Watching.step, hsame]
      exact ⟨hgathered, howed, rfl⟩
    | cons event rest =>
      have hother : w.watcher.place ∉ event.places := fun hmem => by
        simp [owed, huntold, hmem] at howed
      have hrecord : w.record = { w with untold := rest } := by
        simp [Watching.record, huntold, Watcher.record_eq hstage, hother]
      rw [Watching.step, hrecord]
      refine ⟨hgathered, ?_, rfl⟩
      simpa [owed, huntold, hother] using howed
  | poll =>
    have hnone : debouncer.pending = none := by simpa [hgathered, gather] using hpending
    have hready : w.watcher.isReady w.now = false := by
      simp [Watcher.isReady, Watcher.pending?, hstage, hnone]
    rw [Watching.step, poll_of_not_isReady hstage hready]
    exact ⟨hgathered, howed, rfl⟩
  | wait time => exact ⟨hgathered, howed, rfl⟩
  | work => exact ⟨hgathered, howed, rfl⟩

theorem lastSent_run_of_spares (h : w.Attentive) (hgathered : w.gathered = []) (howed : w.owed = [])
    {moves : List WatchMove} (hspares : ∀ move ∈ moves, move.Spares w.watcher.place) :
    (w.run moves).lastSent = w.lastSent := by
  induction moves generalizing w with
  | nil => rfl
  | cons move rest ih =>
    rw [List.forall_mem_cons] at hspares
    obtain ⟨hgathered', howed', hlast⟩ := h.step_of_spares hgathered howed hspares.1
    rw [← hlast]
    refine ih (h.step move) hgathered' howed' ?_
    rw [place_step]
    exact hspares.2

end Attentive

/-! ## Updates -/

/-- **A watched document is up to date unless a removal is overlooked.** Begin to watch a document,
and make any moves. Once all its changes are recorded and the window has passed, a poll leaves the
text of the document as the one submitted last, and it stays so until the document changes again,
just when what was gathered is not taken for a removal; or if it was the text submitted before. -/
theorem lastSent_eq_iff {files : FileTable} {place : Location} {window : Nat} {first text : String}
    {live : Live} {moves later : List WatchMove} {w : Watching}
    (hw : w = (begin files place window first live).run moves) (hrunning : live.isRunning = true)
    (howed : w.owed = []) (hgathered : w.gathered ≠ []) (hpassed : w.WindowPassed)
    (htext : w.files.textAt place = .ok text) (hlater : ∀ move ∈ later, move.Spares place) :
    (w.run (.poll :: later)).lastSent = some text ↔
      ¬ Overlooked w.gathered ∨ w.lastSent = some text := by
  have hplace : w.watcher.place = place := by
    rw [hw, place_run]
    rfl
  have hattentive : w.Attentive := by
    rw [hw]
    exact (Attentive.begin hrunning).run moves
  rw [← hplace] at htext hlater
  obtain ⟨hdone, hnone, hsent⟩ := hattentive.lastSent_poll howed hgathered hpassed htext
  have hstays : (w.run (.poll :: later)).lastSent = w.poll.lastSent :=
    hattentive.poll.lastSent_run_of_spares hdone hnone (by
      have hsame : w.poll.watcher.place = w.watcher.place := place_step w .poll
      rw [hsame]
      exact hlater)
  rw [hstays, hsent, ← gather_eq_removed_iff]
  by_cases hoverlooked : gather w.gathered = some .removed <;> simp [hoverlooked]

/-- A folder with one document. -/
def oneDocument : FileTable := ⟨[(["doc.md"], .file "old".toUTF8)]⟩

/-- A document is removed and another made in its place, all told before its window has passed. -/
def recreated : Watching :=
  (begin oneDocument ["doc.md"] 2 "old" {}).run
    [.change (.remove ["doc.md"]), .record, .change (.create ["doc.md"] "new".toUTF8), .work,
      .record, .wait 2]

theorem lastSent_recreated : recreated.owed = [] ∧ recreated.gathered ≠ [] ∧
    recreated.WindowPassed ∧ recreated.files.textAt ["doc.md"] = .ok "new" ∧
      (recreated.run [.poll, .wait 1, .poll]).lastSent = some "new" := by
  have howed : recreated.owed = [] := by decide
  have hgathered : recreated.gathered ≠ [] := by decide
  have hpassed : recreated.WindowPassed := by decide
  have htext : recreated.files.textAt ["doc.md"] = .ok "new" :=
    FileTable.textAt_eq_ok_iff.mpr ⟨"new".toUTF8, rfl, by decide⟩
  have hlater : ∀ move ∈ [WatchMove.wait 1, .poll], move.Spares ["doc.md"] := by
    simp [WatchMove.Spares]
  have hkept : ¬ Overlooked recreated.gathered := by
    rw [← gather_eq_removed_iff]
    decide
  exact ⟨howed, hgathered, hpassed, htext,
    (lastSent_eq_iff rfl rfl howed hgathered hpassed htext hlater).mpr (.inl hkept)⟩

/-- A document is removed and another file moved to its place, all told before its window has
passed. -/
def movedIntoPlace : Watching :=
  (begin oneDocument ["doc.md"] 2 "old" {}).run
    [.change (.remove ["doc.md"]), .record, .change (.moveOver ["doc.md"] "new".toUTF8), .record,
      .wait 2]

/-- **The text of a file that is moved to the place of a removed one is not seen**: the poll leaves
the old text as the one submitted last. -/
theorem lastSent_movedIntoPlace : movedIntoPlace.owed = [] ∧ movedIntoPlace.gathered ≠ [] ∧
    movedIntoPlace.WindowPassed ∧ movedIntoPlace.files.textAt ["doc.md"] = .ok "new" ∧
      (movedIntoPlace.run [.poll]).lastSent = some "old" := by
  have htext : movedIntoPlace.files.textAt ["doc.md"] = .ok "new" :=
    FileTable.textAt_eq_ok_iff.mpr ⟨"new".toUTF8, rfl, by decide⟩
  exact ⟨by decide, by decide, by decide, htext, by decide⟩

end Watching

end MarkView
