import MarkView.Proofs.Preview.Watching
/-!
# Starting to watch while the document changes

A watcher starts in three steps: it reads the document, submits the text, and asks to be told of
changes. A poll has three as well: it takes a change that is ready, reads the document, and submits
the text if it is another. The document may change between any two of them. `Startup` is a watcher
in the middle of that, and `Startup.run` plays the moves of all who take part, in any order. With
nothing in between, the steps are those of `Watcher.start` and `Watcher.poll` (`run_start`,
`run_poll`).

A change that is made after the registration is told, recorded, taken and followed by a read, so in
the end it is seen. One between the first read and the registration is never told of, and no poll
looks for it. Once nothing is left to be done, the text submitted last is that of the document just
when the document was changed after the registration, or still has the text that was read first
(`lastSent_iff_of_quiet`).
-/

namespace MarkView

/-- What a poll is at: it looks for a change, has taken one, or has read a text that is another. -/
inductive PollStage
  | idle
  | taken (kind : ChangeKind)
  | found (text : String)
  deriving DecidableEq

/-- A watcher that starts, or polls, with the files around it and the preview that it feeds. The
events that it is told of wait to be recorded, and the texts that it submits are kept in order. -/
structure Startup where
  files : FileTable
  live : Live
  watcher : Option Watcher := none
  poll : PollStage := .idle
  unrecorded : List FileEvent := []
  now : Nat := 0
  sent : List String := []

/-- A move: a file changes, time passes, the worker of the preview makes a step, or the watcher
makes one of the steps of its start, records the next event, or makes one of the steps of a poll. -/
inductive StartMove
  | change (change : FileChange)
  | wait (time : Nat)
  | work
  | read (here : Location) (path : String) (window : Nat)
  | submit
  | register
  | record
  | take
  | look
  | send

namespace StartMove

/-- A move of something else than the watcher. -/
def IsOutside : StartMove → Prop
  | .change _ | .wait _ | .work => True
  | _ => False

/-- A move that is a change of a document. -/
def Changes (place : Location) : StartMove → Prop
  | .change made => made.place = place
  | _ => False

/-- A move that, if it is a change of a document, is told of as a modification. -/
def Modifies (place : Location) : StartMove → Prop
  | .change made => made.place = place → made.event.kind = .modified
  | _ => True

end StartMove

namespace Startup

/-- The watcher is told of changes. -/
def isRegistered (s : Startup) : Bool :=
  match s.watcher with
  | some ⟨_, _, .watching _ _⟩ => true
  | _ => false

/-- Find the document and read its text, if that is not done. -/
def read (s : Startup) (here : Location) (path : String) (window : Nat) : Startup :=
  match s.watcher, Watcher.openFile s.files here path window with
  | none, .ok opened => { s with watcher := some opened }
  | _, _ => s

/-- Submit the text that was read first. -/
def submit (s : Startup) : Startup :=
  match s.watcher with
  | some ⟨place, window, .opened text⟩ =>
    let (submitted, live) := Watcher.submitFirst ⟨place, window, .opened text⟩ s.live
    { s with watcher := some submitted, live, sent := s.sent ++ [text] }
  | _ => s

/-- Be told of changes from now on. -/
def register (s : Startup) : Startup := { s with watcher := s.watcher.map Watcher.register }

/-- Record the next event. -/
def record (s : Startup) : Startup :=
  match s.unrecorded with
  | [] => s
  | event :: rest => { s with watcher := s.watcher.map (·.record s.now event), unrecorded := rest }

/-- Take the change that is ready. -/
def take (s : Startup) : Startup :=
  match s.poll, s.watcher with
  | .idle, some ⟨place, window, .watching debouncer last⟩ =>
    match debouncer.takeReady s.now with
    | (none, _) => s
    | (some kind, rest) =>
      { s with watcher := some ⟨place, window, .watching rest last⟩, poll := .taken kind }
  | _, _ => s

/-- Read the document after the change that was taken. -/
def look (s : Startup) : Startup :=
  match s.poll, s.watcher with
  | .taken kind, some ⟨place, _, .watching _ last⟩ =>
    match Watcher.newText? s.files place kind last with
    | none => { s with poll := .idle }
    | some text => { s with poll := .found text }
  | _, _ => s

/-- Submit the text that was read after a change. -/
def send (s : Startup) : Startup :=
  match s.poll, s.watcher with
  | .found text, some ⟨place, window, .watching debouncer _⟩ =>
    { s with
      watcher := some ⟨place, window, .watching debouncer text⟩
      live := (s.live.submit text).2
      poll := .idle
      sent := s.sent ++ [text] }
  | _, _ => s

/-- Make one move. Changes are told while the watcher is registered. -/
def step (s : Startup) : StartMove → Startup
  | .change change =>
    { s with
      files := change.apply s.files
      unrecorded := if s.isRegistered then s.unrecorded ++ [change.event] else s.unrecorded }
  | .wait time => { s with now := s.now + time }
  | .work => { s with live := s.live.step }
  | .read here path window => s.read here path window
  | .submit => s.submit
  | .register => s.register
  | .record => s.record
  | .take => s.take
  | .look => s.look
  | .send => s.send

/-- Make some moves, one after the other. -/
def run (s : Startup) (moves : List StartMove) : Startup := moves.foldl step s

@[simp] theorem run_nil (s : Startup) : s.run [] = s := rfl

@[simp] theorem run_cons (s : Startup) (move : StartMove) (rest : List StartMove) :
    s.run (move :: rest) = (s.step move).run rest := rfl

@[simp] theorem run_append (s : Startup) (moves rest : List StartMove) :
    s.run (moves ++ rest) = (s.run moves).run rest := List.foldl_append

/-- Start to watch a document, with moves of others before its text is submitted, and before the
watcher is registered. -/
def begin (files : FileTable) (live : Live) (here : Location) (path : String) (window : Nat)
    (saves saves' : List StartMove) : Startup :=
  run { files, live } (.read here path window :: (saves ++ .submit :: (saves' ++ [.register])))

/-- The text submitted last. -/
def lastSent (s : Startup) : Option String := s.sent.getLast?

/-- The change that waits for its window to pass. -/
def pending? (s : Startup) : Option PendingChange := s.watcher.bind Watcher.pending?

/-- Nothing is left to be done about a document: all its changes that are told are recorded, what
was recorded was taken once its window had passed, and no poll is under way. -/
structure Quiet (s : Startup) (place : Location) : Prop where
  recorded : ∀ event ∈ s.unrecorded, place ∉ event.places
  taken : s.pending? = none
  idle : s.poll = .idle

/-! ## Steps with nothing in between -/

/-- **The steps of a start are those of `Watcher.start`.** -/
theorem run_start {s : Startup} (hnone : s.watcher = none) (here : Location) (path : String)
    (window : Nat) :
    let started := s.run [.read here path window, .submit, .register]
    (started.watcher, started.live) =
      match Watcher.start s.files here path window s.live with
      | .ok (watcher, live) => (some watcher, live)
      | .error _ => (none, s.live) := by
  cases hopen : Watcher.openFile s.files here path window with
  | error cause => simp [step, read, submit, register, hnone, hopen, Watcher.start]
  | ok opened =>
    obtain ⟨place, text, -, -, -, rfl⟩ := Watcher.openFile_eq_ok hopen
    simp [step, read, submit, register, hnone, hopen, Watcher.start]

/-- **The steps of a poll are those of `Watcher.poll`.** -/
theorem run_poll {s : Startup} {watcher : Watcher} (hwatcher : s.watcher = some watcher)
    (hidle : s.poll = .idle) :
    let polled := s.run [.take, .look, .send]
    (polled.watcher, polled.live) =
        (some (watcher.poll s.now s.files s.live).1, (watcher.poll s.now s.files s.live).2) ∧
      polled.poll = .idle := by
  obtain ⟨place, window, stage⟩ := watcher
  cases stage with
  | watching debouncer last =>
    cases hready : (debouncer.takeReady s.now).1 with
    | none =>
      have htake := Debouncer.takeReady_of_none hready
      simp [step, take, look, send, hwatcher, hidle, htake, Watcher.poll]
    | some kind =>
      have htake := Debouncer.takeReady_of_some hready
      cases hnew : Watcher.newText? s.files place kind last with
      | none => simp [step, take, look, send, hwatcher, hidle, htake, hnew, Watcher.poll]
      | some text => simp [step, take, look, send, hwatcher, hidle, htake, hnew, Watcher.poll]
  | opened text | submitted text | stopped =>
    simp [step, take, look, send, hwatcher, hidle, Watcher.poll]

/-! ## Before the registration -/

/-- Whatever happens around a watcher that is not registered, the watcher sees nothing of it. -/
theorem run_outside {s : Startup} {moves : List StartMove} (hearly : s.isRegistered = false)
    (houtside : ∀ move ∈ moves, move.IsOutside) :
    ∃ files live now, s.run moves = { s with files, live, now } := by
  induction moves generalizing s with
  | nil => exact ⟨s.files, s.live, s.now, rfl⟩
  | cons move rest ih =>
    rw [List.forall_mem_cons] at houtside
    have hstep : ∃ files live now, s.step move = { s with files, live, now } := by
      cases move with
      | change change => exact ⟨change.apply s.files, s.live, s.now, by simp [step, hearly]⟩
      | wait time => exact ⟨s.files, s.live, s.now + time, rfl⟩
      | work => exact ⟨s.files, s.live.step, s.now, rfl⟩
      | _ => exact absurd houtside.1 id
    obtain ⟨files, live, now, hstep⟩ := hstep
    rw [run_cons, hstep]
    exact ih hearly houtside.2

section Begin

variable {files : FileTable} {here place : Location} {path first : String} {window : Nat}
  {saves saves' : List StartMove} (live : Live)

/-- A start begins with a read that can be made. -/
theorem begin_of_read {opened : Watcher}
    (hread : Watcher.openFile files here path window = .ok opened) :
    begin files live here path window saves saves' =
      run { files, live, watcher := some opened }
        (saves ++ .submit :: (saves' ++ [.register])) := by
  simp only [begin, run_cons, step, read, hread]

/-- **This is where a watcher is when it begins to be told of changes**: whatever happened since it
read the document, it compares with the text read first, which is the one submitted last. -/
theorem begin_eq
    (hread : Watcher.openFile files here path window = .ok ⟨place, window, .opened first⟩)
    (hsaves : ∀ move ∈ saves, move.IsOutside) (hsaves' : ∀ move ∈ saves', move.IsOutside) :
    ∃ files' live' now, begin files live here path window saves saves' =
      { files := files', live := live', now
        watcher := some ⟨place, window, .watching ⟨window, none⟩ first⟩
        sent := [first] } := by
  let opened : Startup := { files, live, watcher := some ⟨place, window, .opened first⟩ }
  obtain ⟨files₁, live₁, now₁, hrun₁⟩ := run_outside (s := opened) rfl hsaves
  let submitted := step { opened with files := files₁, live := live₁, now := now₁ } .submit
  obtain ⟨files₂, live₂, now₂, hrun₂⟩ := run_outside (s := submitted) rfl hsaves'
  refine ⟨files₂, live₂, now₂, ?_⟩
  rw [begin_of_read live hread, run_append, hrun₁, run_cons, run_append, hrun₂]
  rfl

end Begin

/-! ## After the registration -/

section Registered

variable {s : Startup} {place : Location} {window : Nat} {debouncer : Debouncer} {last : String}

theorem isRegistered_of_watcher
    (h : s.watcher = some ⟨place, window, .watching debouncer last⟩) : s.isRegistered = true := by
  rw [isRegistered, h]

theorem pending?_of_watcher (h : s.watcher = some ⟨place, window, .watching debouncer last⟩) :
    s.pending? = debouncer.pending := by
  rw [pending?, h]
  rfl

/-- What a move does once the watcher is registered. -/
inductive Effect (s : Startup) (place : Location) (window : Nat) (debouncer : Debouncer)
    (last : String) : StartMove → Startup → Prop
  | idle {move : StartMove} (hmove : ∀ change, move ≠ .change change) :
    Effect s place window debouncer last move s
  | change (change : FileChange) :
    Effect s place window debouncer last (.change change)
      { s with files := change.apply s.files, unrecorded := s.unrecorded ++ [change.event] }
  | wait (time : Nat) :
    Effect s place window debouncer last (.wait time) { s with now := s.now + time }
  | work : Effect s place window debouncer last .work { s with live := s.live.step }
  | record {event : FileEvent} {rest : List FileEvent} (hevents : s.unrecorded = event :: rest)
    (hplace : place ∈ event.places) :
    Effect s place window debouncer last .record
      { s with
        watcher := some ⟨place, window, .watching (debouncer.record s.now event.kind) last⟩
        unrecorded := rest }
  | skip {event : FileEvent} {rest : List FileEvent} (hevents : s.unrecorded = event :: rest)
    (hplace : place ∉ event.places) :
    Effect s place window debouncer last .record { s with unrecorded := rest }
  | take {pending : PendingChange} (hidle : s.poll = .idle)
    (hpending : debouncer.pending = some pending) (hpassed : pending.deadline ≤ s.now) :
    Effect s place window debouncer last .take
      { s with
        watcher := some ⟨place, window, .watching { debouncer with pending := none } last⟩
        poll := .taken pending.kind }
  | keep {kind : ChangeKind} (htaken : s.poll = .taken kind)
    (hnew : Watcher.newText? s.files place kind last = none) :
    Effect s place window debouncer last .look { s with poll := .idle }
  | find {kind : ChangeKind} {text : String} (htaken : s.poll = .taken kind)
    (hnew : Watcher.newText? s.files place kind last = some text) :
    Effect s place window debouncer last .look { s with poll := .found text }
  | send {text : String} (hfound : s.poll = .found text) :
    Effect s place window debouncer last .send
      { s with
        watcher := some ⟨place, window, .watching debouncer text⟩
        live := (s.live.submit text).2
        poll := .idle
        sent := s.sent ++ [text] }

/-- **These are all the effects that moves have.** -/
theorem effect_step (hwatcher : s.watcher = some ⟨place, window, .watching debouncer last⟩)
    (move : StartMove) : Effect s place window debouncer last move (s.step move) := by
  cases move with
  | change change =>
    rw [step, if_pos (isRegistered_of_watcher hwatcher)]
    exact .change change
  | wait time => exact .wait time
  | work => exact .work
  | read here path window =>
    have hsame : s.read here path window = s := by simp [read, hwatcher]
    rw [step, hsame]
    exact .idle nofun
  | submit =>
    have hsame : s.submit = s := by simp [submit, hwatcher]
    rw [step, hsame]
    exact .idle nofun
  | register =>
    have hsame : s.register = s := by
      rw [register, hwatcher, Option.map_some, Watcher.register, ← hwatcher]
    rw [step, hsame]
    exact .idle nofun
  | record =>
    rw [step, record]
    split
    · exact .idle nofun
    · next event rest hevents =>
      rw [hwatcher, Option.map_some, Watcher.record_eq rfl]
      by_cases hplace : place ∈ event.places
      · rw [if_pos hplace]
        exact .record hevents hplace
      · rw [if_neg hplace, ← hwatcher]
        exact .skip hevents hplace
  | take =>
    rw [step, take]
    split
    · next hidle heq =>
      cases hwatcher.symm.trans heq
      cases hready : (debouncer.takeReady s.now).1 with
      | none =>
        rw [Debouncer.takeReady_of_none hready]
        exact .idle nofun
      | some kind =>
        obtain ⟨pending, hpending, rfl, hpassed⟩ := Debouncer.takeReady_eq_some_iff.mp hready
        rw [Debouncer.takeReady_of_some hready]
        exact .take hidle hpending hpassed
    · exact .idle nofun
  | look =>
    rw [step, look]
    split
    · next htaken heq =>
      cases hwatcher.symm.trans heq
      split
      · next hnew => exact .keep htaken hnew
      · next hnew => exact .find htaken hnew
    · exact .idle nofun
  | send =>
    rw [step, send]
    split
    · next hfound heq =>
      cases hwatcher.symm.trans heq
      exact .send hfound
    · exact .idle nofun

/-- A registered watcher stays so. -/
theorem watcher_step (hwatcher : s.watcher = some ⟨place, window, .watching debouncer last⟩)
    (move : StartMove) : ∃ debouncer last,
      (s.step move).watcher = some ⟨place, window, .watching debouncer last⟩ := by
  generalize hstep : s.step move = t
  cases hstep ▸ effect_step hwatcher move with
  | record | take | send => exact ⟨_, _, rfl⟩
  | _ => exact ⟨debouncer, last, hwatcher⟩

theorem watcher_run (hwatcher : s.watcher = some ⟨place, window, .watching debouncer last⟩)
    (moves : List StartMove) : ∃ debouncer last,
      (s.run moves).watcher = some ⟨place, window, .watching debouncer last⟩ := by
  induction moves generalizing s debouncer last with
  | nil => exact ⟨debouncer, last, hwatcher⟩
  | cons move rest ih =>
    obtain ⟨debouncer, last, hwatcher'⟩ := watcher_step hwatcher move
    exact ih hwatcher'

end Registered

/-! ## What a registered watcher keeps -/

/-- **A registered watcher whose document is only modified**: it is told of nothing else, and the
text that it compares with is the one submitted last. -/
structure Follows (s : Startup) (place : Location) : Prop where
  watching : ∃ window debouncer last,
    s.watcher = some ⟨place, window, .watching debouncer last⟩ ∧ s.lastSent = some last ∧
      ∀ pending ∈ debouncer.pending, pending.kind = .modified
  told : ∀ event ∈ s.unrecorded, place ∈ event.places → event.kind = .modified
  taken : ∀ kind, s.poll = .taken kind → kind = .modified

/-- A change of a document that has not been looked at: it is told and not recorded, or recorded and
not taken, or the poll that took it has not read the document yet. -/
def Outstanding (s : Startup) (place : Location) : Prop :=
  (∃ event ∈ s.unrecorded, place ∈ event.places) ∨ s.pending? ≠ none ∨ ∃ kind, s.poll = .taken kind

/-- The text that is submitted last once a poll under way is done. -/
def heading (s : Startup) : Option String :=
  match s.poll with
  | .found text => some text
  | _ => s.lastSent

/-- **No change is lost**: one is outstanding, or the text of the document is submitted, or about to
be. -/
def Current (s : Startup) (place : Location) : Prop :=
  s.Outstanding place ∨ ∀ text, s.files.textAt place = .ok text → s.heading = some text

variable {s : Startup} {place : Location} {window : Nat} {debouncer : Debouncer} {last : String}
  {move : StartMove}

/-- Modifications are folded into a modification. -/
theorem record_modified (hpending : ∀ pending ∈ debouncer.pending, pending.kind = .modified)
    (now : Nat) : debouncer.record now .modified =
      { debouncer with pending := some ⟨.modified, now + debouncer.window⟩ } := by
  cases hwaits : debouncer.pending with
  | none => simp [Debouncer.record, hwaits, Debouncer.foldIn]
  | some pending =>
    have hkind : pending.kind = .modified := hpending pending hwaits
    simp [Debouncer.record, hwaits, hkind, Debouncer.foldIn, ChangeKind.merge?]

theorem Follows.step (h : s.Follows place) (hmodifies : move.Modifies place) :
    (s.step move).Follows place := by
  obtain ⟨window, debouncer, last, hwatcher, hlast, hpending⟩ := h.watching
  generalize hstep : s.step move = t
  cases hstep ▸ effect_step hwatcher move with
  | idle => exact h
  | change change =>
    refine ⟨h.watching, ?_, h.taken⟩
    rw [List.forall_mem_append, List.forall_mem_singleton, FileChange.event_places,
      List.mem_singleton]
    exact ⟨h.told, fun hplace => hmodifies hplace.symm⟩
  | wait | work => exact ⟨h.watching, h.told, h.taken⟩
  | record hevents hplace =>
    have htold := h.told
    rw [hevents, List.forall_mem_cons] at htold
    rw [htold.1 hplace, record_modified hpending]
    exact ⟨⟨window, _, last, rfl, hlast, by simp⟩, htold.2, h.taken⟩
  | skip hevents hplace =>
    have htold := h.told
    rw [hevents, List.forall_mem_cons] at htold
    exact ⟨h.watching, htold.2, h.taken⟩
  | take hidle hwaits hpassed =>
    refine ⟨⟨window, _, last, rfl, hlast, nofun⟩, h.told, ?_⟩
    rintro kind ⟨rfl⟩
    exact hpending _ hwaits
  | keep htaken hnew => exact ⟨h.watching, h.told, nofun⟩
  | find htaken hnew => exact ⟨h.watching, h.told, nofun⟩
  | send hfound =>
    exact ⟨⟨window, debouncer, _, rfl, List.getLast?_concat, hpending⟩, h.told, nofun⟩

/-- A change of the document is told of, so it is outstanding. -/
theorem Follows.outstanding_of_changes (h : s.Follows place) (hchanges : move.Changes place) :
    (s.step move).Outstanding place := by
  obtain ⟨window, debouncer, last, hwatcher, -⟩ := h.watching
  cases move with
  | change change =>
    refine .inl ⟨change.event, ?_, ?_⟩
    · rw [Startup.step, if_pos (isRegistered_of_watcher hwatcher)]
      exact List.mem_append_right _ List.mem_cons_self
    · rw [FileChange.event_places, List.mem_singleton]
      exact Eq.symm hchanges
  | _ => exact hchanges.elim

/-- **No move loses a change.** -/
theorem Current.step (h : s.Current place) (hfollows : s.Follows place) :
    (s.step move).Current place := by
  obtain ⟨window, debouncer, last, hwatcher, hlast, hpending⟩ := hfollows.watching
  generalize hstep : s.step move = t
  cases hstep ▸ effect_step hwatcher move with
  | idle => exact h
  | change change =>
    by_cases hplace : change.place = place
    · rw [← hstep]
      exact .inl (hfollows.outstanding_of_changes hplace)
    · refine h.imp (Or.imp_left ?_) fun hcurrent text htext => ?_
      · exact fun ⟨event, hmem, htold⟩ => ⟨event, List.mem_append_left _ hmem, htold⟩
      · exact hcurrent text ((FileChange.textAt_apply_of_ne hplace).mp htext)
  | wait | work => exact h
  | @record event rest hevents hplace =>
    have hkind : event.kind = .modified := by
      refine hfollows.told event ?_ hplace
      rw [hevents]
      exact List.mem_cons_self
    refine .inl (.inr (.inl ?_))
    rw [hkind, record_modified hpending, pending?_of_watcher rfl]
    exact Option.some_ne_none _
  | skip hevents hplace =>
    refine h.imp_left (Or.imp_left ?_)
    rintro ⟨event, hmem, htold⟩
    rw [hevents] at hmem
    obtain rfl | hmem := List.mem_cons.mp hmem
    · exact absurd htold hplace
    · exact ⟨event, hmem, htold⟩
  | take hidle hwaits hpassed => exact .inl (.inr (.inr ⟨_, rfl⟩))
  | @keep kind htaken hnew =>
    -- the document is read here, so the text is the one that it has now
    refine .inr fun text htext => ?_
    have hkind : kind ≠ .removed := by simp [hfollows.taken kind htaken]
    rw [Watcher.newText?_of_textAt htext hkind] at hnew
    obtain rfl : text = last := by simpa using hnew
    exact hlast
  | @find kind found htaken hnew =>
    refine .inr fun text htext => ?_
    have hkind : kind ≠ .removed := by simp [hfollows.taken kind htaken]
    rw [Watcher.newText?_of_textAt htext hkind] at hnew
    obtain ⟨-, rfl⟩ : text ≠ last ∧ text = found := by simpa using hnew
    rfl
  | @send found hfound =>
    refine h.imp ?_ fun hcurrent text htext => ?_
    · rintro (htold | hwaits | ⟨kind, htaken⟩)
      · exact .inl htold
      · rw [pending?_of_watcher hwatcher] at hwaits
        exact .inr (.inl hwaits)
      · rw [hfound] at htaken
        cases htaken
    · rw [← hcurrent text htext, heading, heading, hfound]
      exact List.getLast?_concat

/-- When nothing is left to be done, the text of the document is the one submitted last. -/
theorem Current.lastSent (h : s.Current place) (hquiet : s.Quiet place) {text : String}
    (htext : s.files.textAt place = .ok text) : s.lastSent = some text := by
  have hheading : s.heading = s.lastSent := by rw [heading, hquiet.idle]
  rw [← hheading]
  refine h.resolve_left ?_ text htext
  rintro (⟨event, hmem, htold⟩ | hwaits | ⟨kind, htaken⟩)
  · exact hquiet.recorded event hmem htold
  · exact hwaits hquiet.taken
  · rw [hquiet.idle] at htaken
    cases htaken

/-- **Where nothing is left to be done, nothing is done** until the document changes. -/
theorem Quiet.step (h : s.Quiet place)
    (hwatcher : s.watcher = some ⟨place, window, .watching debouncer last⟩)
    (hspares : ¬ move.Changes place) :
    (s.step move).Quiet place ∧ (s.step move).lastSent = s.lastSent := by
  have hnone : debouncer.pending = none := (pending?_of_watcher hwatcher).symm.trans h.taken
  generalize hstep : s.step move = t
  cases hstep ▸ effect_step hwatcher move with
  | idle => exact ⟨h, rfl⟩
  | change change =>
    refine ⟨⟨?_, h.taken, h.idle⟩, rfl⟩
    rw [List.forall_mem_append, List.forall_mem_singleton, FileChange.event_places,
      List.mem_singleton]
    exact ⟨h.recorded, fun hplace => hspares hplace.symm⟩
  | wait | work => exact ⟨⟨h.recorded, h.taken, h.idle⟩, rfl⟩
  | record hevents hplace =>
    have hrecorded := h.recorded
    rw [hevents, List.forall_mem_cons] at hrecorded
    exact absurd hplace hrecorded.1
  | skip hevents hplace =>
    have hrecorded := h.recorded
    rw [hevents, List.forall_mem_cons] at hrecorded
    exact ⟨⟨hrecorded.2, h.taken, h.idle⟩, rfl⟩
  | take hidle hwaits hpassed => cases hnone.symm.trans hwaits
  | keep htaken | find htaken | send htaken => cases h.idle.symm.trans htaken

/-! ## Runs -/

section Runs

variable {moves : List StartMove}

theorem Follows.run (h : s.Follows place) (hmodifies : ∀ move ∈ moves, move.Modifies place) :
    (s.run moves).Follows place := by
  induction moves generalizing s with
  | nil => exact h
  | cons move rest ih =>
    rw [List.forall_mem_cons] at hmodifies
    exact ih (h.step hmodifies.1) hmodifies.2

theorem Current.run (h : s.Current place) (hfollows : s.Follows place)
    (hmodifies : ∀ move ∈ moves, move.Modifies place) : (s.run moves).Current place := by
  induction moves generalizing s with
  | nil => exact h
  | cons move rest ih =>
    rw [List.forall_mem_cons] at hmodifies
    exact ih (h.step hfollows) (hfollows.step hmodifies.1) hmodifies.2

theorem Quiet.run (h : s.Quiet place)
    (hwatcher : s.watcher = some ⟨place, window, .watching debouncer last⟩)
    (hspares : ∀ move ∈ moves, ¬ move.Changes place) : (s.run moves).lastSent = s.lastSent := by
  induction moves generalizing s debouncer last with
  | nil => rfl
  | cons move rest ih =>
    rw [List.forall_mem_cons] at hspares
    obtain ⟨hquiet, hlast⟩ := h.step hwatcher hspares.1
    obtain ⟨debouncer, last, hwatcher'⟩ := watcher_step hwatcher move
    rw [run_cons, ih hquiet hwatcher' hspares.2, hlast]

end Runs

/-- Right after the registration nothing is left to be done. -/
theorem quiet_begin {files : FileTable} {here : Location} {path first : String}
    {saves saves' : List StartMove} (live : Live)
    (hread : Watcher.openFile files here path window = .ok ⟨place, window, .opened first⟩)
    (hsaves : ∀ move ∈ saves, move.IsOutside) (hsaves' : ∀ move ∈ saves', move.IsOutside) :
    let b := begin files live here path window saves saves'
    b.Follows place ∧ b.Quiet place ∧ b.lastSent = some first := by
  obtain ⟨files', live', now, hbegin⟩ := begin_eq live hread hsaves hsaves'
  rw [hbegin]
  exact ⟨⟨⟨window, _, first, rfl, rfl, nofun⟩, nofun, nofun⟩, ⟨nofun, rfl, rfl⟩, rfl⟩

/-! ## Coming to rest -/

/-- What a watcher has still to do: events to record, a change to take, and a poll to finish. A move
that leaves something to a later one costs more than what it leaves. -/
def effort (s : Startup) : Nat :=
  4 * s.unrecorded.length + (if s.pending?.isSome then 3 else 0) +
    match s.poll with
    | .idle => 0
    | .taken _ => 2
    | .found _ => 1

theorem quiet_of_effort (h : s.effort = 0) : s.Quiet place := by
  simp only [effort, Nat.add_eq_zero_iff] at h
  obtain ⟨⟨hrecorded, htaken⟩, hidle⟩ := h
  refine ⟨?_, ?_, ?_⟩
  · have hevents : s.unrecorded = [] := List.length_eq_zero_iff.mp (by omega)
    simp [hevents]
  · simpa using htaken
  · cases hpoll : s.poll with
    | idle => rfl
    | taken kind | found text => simp [hpoll] at hidle

/-- While something is left to be done, a watcher can do some of it. -/
theorem exists_effort_lt (hwatcher : s.watcher = some ⟨place, window, .watching debouncer last⟩)
    (hbusy : s.effort ≠ 0) :
    ∃ moves, (∀ change, .change change ∉ moves) ∧ (s.run moves).effort < s.effort := by
  cases hpoll : s.poll with
  | taken kind =>
    refine ⟨[.look], by simp, ?_⟩
    cases hnew : Watcher.newText? s.files place kind last with
    | none =>
      have hlook : s.look = { s with poll := .idle } := by simp [look, hpoll, hwatcher, hnew]
      simp [step, hlook, effort, hpoll, hwatcher, pending?]
    | some text =>
      have hlook : s.look = { s with poll := .found text } := by simp [look, hpoll, hwatcher, hnew]
      simp [step, hlook, effort, hpoll, hwatcher, pending?]
  | found text =>
    refine ⟨[.send], by simp, ?_⟩
    simp [step, send, effort, hpoll, hwatcher, pending?, Watcher.pending?]
  | idle =>
    cases hevents : s.unrecorded with
    | cons event rest =>
      refine ⟨[.record], by simp, ?_⟩
      have hrecord : s.record.unrecorded = rest ∧ s.record.poll = s.poll := by
        simp [record, hevents]
      -- one event less is worth more than the change that may wait now
      rw [run_cons, run_nil, step, effort, effort, hrecord.1, hrecord.2, hevents,
        List.length_cons]
      split <;> split <;> omega
    | nil =>
      cases hpending : debouncer.pending with
      | none =>
        have hwaits := (pending?_of_watcher hwatcher).trans hpending
        simp [effort, hpoll, hevents, hwaits] at hbusy
      | some pending =>
        refine ⟨[.wait pending.deadline, .take], by simp, ?_⟩
        have htake := Debouncer.takeReady_of_some (Debouncer.takeReady_eq_some_iff.mpr
          ⟨pending, hpending, rfl, Nat.le_add_left pending.deadline s.now⟩)
        simp [step, take, hwatcher, hpoll, htake, effort, hevents, hpending, pending?,
          Watcher.pending?]

/-- **A watcher can always come to rest**: whatever has happened, it can do all that is left to be
done if no file changes meanwhile. -/
theorem exists_quiet (hwatcher : s.watcher = some ⟨place, window, .watching debouncer last⟩) :
    ∃ moves, (∀ change, .change change ∉ moves) ∧ (s.run moves).Quiet place := by
  induction heffort : s.effort using Nat.strongRecOn generalizing s debouncer last with
  | _ effort ih =>
    subst heffort
    by_cases hdone : s.effort = 0
    · exact ⟨[], by simp, quiet_of_effort hdone⟩
    · obtain ⟨moves, hspares, hless⟩ := exists_effort_lt hwatcher hdone
      obtain ⟨debouncer, last, hwatcher'⟩ := watcher_run hwatcher moves
      obtain ⟨rest, hrest, hquiet⟩ := ih _ hless hwatcher' rfl
      refine ⟨moves ++ rest, fun change hmem => ?_, ?_⟩
      · exact (List.mem_append.mp hmem).elim (hspares change) (hrest change)
      · rwa [run_append]

/-! ## Edits that are seen -/

/-- **An edit is seen just when it is made after the registration.** A watcher reads a document,
submits the text and is registered, with changes of files in between, and from then on the document
is only modified, while the watcher records and polls, in any order. Once nothing is left to be done
and the document can be read, its text is the one submitted last just when it was changed after the
registration, or when it has the text that was read first. -/
theorem lastSent_iff_of_quiet {files : FileTable} {live : Live} {here place : Location}
    {path first text : String} {window : Nat} {saves saves' later : List StartMove} {w : Startup}
    (hread : Watcher.openFile files here path window = .ok ⟨place, window, .opened first⟩)
    (hsaves : ∀ move ∈ saves, move.IsOutside) (hsaves' : ∀ move ∈ saves', move.IsOutside)
    (hmodifies : ∀ move ∈ later, move.Modifies place)
    (hw : w = (begin files live here path window saves saves').run later)
    (hquiet : w.Quiet place) (htext : w.files.textAt place = .ok text) :
    w.lastSent = some text ↔ first = text ∨ ∃ move ∈ later, move.Changes place := by
  obtain ⟨hfollows, hready, hfirst⟩ := quiet_begin live hread hsaves hsaves'
  by_cases hchanged : ∃ move ∈ later, move.Changes place
  · refine iff_of_true ?_ (.inr hchanged)
    obtain ⟨move, hmem, hchanges⟩ := hchanged
    obtain ⟨earlier, rest, rfl⟩ := List.append_of_mem hmem
    rw [List.forall_mem_append, List.forall_mem_cons] at hmodifies
    obtain ⟨hbefore, hmove, hafter⟩ := hmodifies
    -- the change is outstanding right after it is made, and from there on nothing is lost
    have hearlier := hfollows.run hbefore
    have hcurrent := Current.run (.inl (hearlier.outstanding_of_changes hchanges))
      (hearlier.step hmove) hafter
    rw [← run_cons, ← run_append, ← hw] at hcurrent
    exact hcurrent.lastSent hquiet htext
  · have hspares : ∀ move ∈ later, ¬ move.Changes place :=
      fun move hmem hplace => hchanged ⟨move, hmem, hplace⟩
    obtain ⟨window, debouncer, last, hwatcher, -⟩ := hfollows.watching
    have hlast := hready.run hwatcher hspares
    rw [← hw, hfirst] at hlast
    rw [hlast, Option.some_inj, or_iff_left hchanged]

open Watching (oneDocument)

theorem openFile_oneDocument :
    Watcher.openFile oneDocument [] "doc.md" 2 = .ok ⟨["doc.md"], 2, .opened "old"⟩ := by
  have hplace : oneDocument.resolve [] "doc.md" = .ok ["doc.md"] := by
    rw [FileTable.resolve_relative (by decide) (by simp) (by decide) (by simp)]
    decide
  refine Watcher.openFile_of_textAt hplace ?_
  exact FileTable.textAt_eq_ok_iff.mpr ⟨"old".toUTF8, rfl, by decide⟩

/-- A document is saved while the watcher starts, and once more after it is registered. -/
def savedAgain : Startup :=
  (begin oneDocument {} [] "doc.md" 2 [.change (.write ["doc.md"] "new".toUTF8)] [.work]).run
    [.take, .change (.write ["doc.md"] "newer".toUTF8), .record, .wait 2, .take, .work, .look,
      .send]

theorem lastSent_savedAgain : savedAgain.Quiet ["doc.md"] ∧
    savedAgain.files.textAt ["doc.md"] = .ok "newer" ∧ savedAgain.lastSent = some "newer" := by
  have hquiet : savedAgain.Quiet ["doc.md"] := by
    rw [savedAgain, begin_of_read {} openFile_oneDocument]
    exact ⟨by decide, by decide, by decide⟩
  have htext : savedAgain.files.textAt ["doc.md"] = .ok "newer" := by
    rw [savedAgain, begin_of_read {} openFile_oneDocument]
    exact FileTable.textAt_eq_ok_iff.mpr ⟨"newer".toUTF8, rfl, by decide⟩
  refine ⟨hquiet, htext, ?_⟩
  refine (lastSent_iff_of_quiet openFile_oneDocument ?_ ?_ ?_ rfl hquiet htext).mpr (.inr ?_)
  · simp [StartMove.IsOutside]
  · simp [StartMove.IsOutside]
  · simp [StartMove.Modifies, FileChange.event]
  · exact ⟨.change (.write ["doc.md"] "newer".toUTF8), by simp, rfl⟩

/-- A document is saved after it is read and before its text is submitted, and not again. -/
def savedBetween : Startup :=
  (begin oneDocument {} [] "doc.md" 2 [.change (.write ["doc.md"] "new".toUTF8)] []).run
    [.record, .take, .look, .send, .wait 2, .record, .take, .look, .send, .work]

/-- **An edit between the first read and the registration is missed**: nothing is left to be done,
and the text submitted last is the one before the edit. -/
theorem lastSent_savedBetween : savedBetween.Quiet ["doc.md"] ∧
    savedBetween.files.textAt ["doc.md"] = .ok "new" ∧ savedBetween.lastSent = some "old" := by
  rw [savedBetween, begin_of_read {} openFile_oneDocument]
  refine ⟨⟨by decide, by decide, by decide⟩, ?_, by decide⟩
  exact FileTable.textAt_eq_ok_iff.mpr ⟨"new".toUTF8, rfl, by decide⟩

end Startup

end MarkView
