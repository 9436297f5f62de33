import MarkView.Preview.WatchSession
import MarkView.Proofs.Preview.Session
import MarkView.Proofs.Preview.Watching
/-!
# A watched document, one change at a time

Where each change of the files is settled before the next, what is published can be read off the
changes alone (`published_settled`). A change gives the document a text if it puts a content there
that is one (`FileChange.textOf?`), and the text given last is published, under a revision that
counts the texts that differ from the one before them. Nothing else is ever published: not for a
removal, not for a content that is no text, not for other files, and not after a stop.

Two invariants carry this, one for each half of a session: all texts submitted to the preview are
published (`Live.Published`), and the watcher has nothing pending and compares with the text that
was submitted last (`WatchSession.Attends`).
-/

namespace MarkView

/-! ## The texts that changes give -/

/-- The text that a change gives the document at a place, if it puts one there. -/
def FileChange.textOf? (place : Location) : FileChange → Option String
  | .create other content | .write other content | .moveOver other content =>
    if other = place then String.fromUTF8? content else none
  | .remove _ => none

/-- The text that a step gives the document at a place. -/
def WatchStep.textOf? (place : Location) : WatchStep → Option String
  | .change made => made.textOf? place
  | .stop => none

/-- A step that gives the document at a place a text, and another than the last one. -/
def WatchStep.Renews (place : Location) (last : String) (step : WatchStep) : Prop :=
  ∃ text, step.textOf? place = some text ∧ text ≠ last

/-- The text that the document at a place had most recently. `first` is the one it had at the
start. -/
def recentText (place : Location) (first : String) (steps : List WatchStep) : String :=
  (steps.filterMap (·.textOf? place)).getLastD first

theorem recentText_concat (place : Location) (first : String) (steps : List WatchStep)
    (step : WatchStep) : recentText place first (steps ++ [step]) =
      (step.textOf? place).getD (recentText place first steps) := by
  cases htext : step.textOf? place <;> simp [recentText, htext]

namespace FileChange

variable {files : FileTable} {place : Location} {change : FileChange} {text : String}

theorem textOf?_of_ne (h : change.place ≠ place) : change.textOf? place = none := by
  cases change with
  | remove other => rfl
  | create other content | write other content | moveOver other content => exact if_neg h

/-- **What is read after a change is what the change gives.** -/
theorem textAt_apply_iff (hplace : change.place = place) (hroot : place ≠ []) :
    (change.apply files).textAt place = .ok text ↔ change.textOf? place = some text := by
  cases change with
  | remove other =>
    obtain rfl : other = place := hplace
    simp only [textOf?, reduceCtorEq, iff_false]
    exact FileTable.textAt_erase_self
  | create other content | write other content | moveOver other content =>
    obtain rfl : other = place := hplace
    rw [FileTable.textAt_eq_ok_iff, textOf?, if_pos rfl, apply, FileTable.addFile,
      FileTable.find?_put_self _ _ hroot]
    simp

/-- **The text that a change calls for** is the one that it gives, unless that was submitted
last. -/
theorem newText?_apply (hplace : change.place = place) (hroot : place ≠ []) (last : String) :
    Watcher.newText? (change.apply files) place change.event.kind last =
      (change.textOf? place).filter (· ≠ last) := by
  have hread (text : String) : (change.apply files).textAt place = .ok text ↔
      change.textOf? place = some text := textAt_apply_iff hplace hroot
  cases htext : change.textOf? place with
  | none =>
    simp only [htext, reduceCtorEq, iff_false] at hread
    unfold Watcher.newText?
    split
    · rfl
    · split
      · next text hok => exact absurd hok (hread text)
      · rfl
  | some text =>
    have hok := (hread text).mpr htext
    have hkind : change.event.kind ≠ .removed := fun hremoved =>
      textAt_apply_of_removed hplace hremoved hok
    rw [Watcher.newText?_of_textAt hok hkind]
    by_cases hsame : text = last <;> simp [hsame, Option.filter]

end FileChange

/-! ## The preview -/

namespace Live

variable {pipeline : Pipeline} {texts : List String} {live : Live}

/-- A live preview that the given texts were submitted to, all of which are taken into account. -/
structure Published (pipeline : Pipeline) (texts : List String) (live : Live) : Prop where
  follows : live.Follows pipeline texts
  awaits : live.Awaits texts
  latest : live.latest = .ofTexts pipeline texts

theorem Published.init (pipeline : Pipeline) : Published pipeline [] { pipeline } :=
  ⟨.init pipeline, .init pipeline, rfl⟩

/-- A worker that has nothing to do leaves what is published. -/
theorem Published.settle (h : live.Published pipeline texts) :
    live.settle.Published pipeline texts := by
  exact ⟨h.awaits.follows_settle h.follows, h.awaits.settle h.follows,
    h.awaits.latest_settle h.follows⟩

/-- **A text that is submitted and settled is published.** -/
theorem Published.submit (h : live.Published pipeline texts) (text : String) :
    (live.submit text).2.settle.Published pipeline (texts ++ [text]) := by
  have hfollows := h.follows.submit text
  have hawaits := h.awaits.submit h.follows text
  exact ⟨hawaits.follows_settle hfollows, hawaits.settle hfollows, hawaits.latest_settle hfollows⟩

end Live

/-! ## The watcher -/

namespace WatchSession

variable {pipeline : Pipeline} {texts : List String} {last : String} {session : WatchSession}

/-- **A watching session between two steps**: nothing is pending, the text submitted last is the one
that the watcher compares with, and it is published. -/
structure Attends (pipeline : Pipeline) (texts : List String) (last : String)
    (session : WatchSession) : Prop where
  stage : session.watcher.stage = .watching ⟨session.watcher.window, none⟩ last
  place_ne : session.watcher.place ≠ []
  last_eq : texts.getLast? = some last
  published : session.live.Published pipeline texts

/-- **One change, settled**: its window passes, and the text that it gives the document is
submitted, if that is another than the last one. -/
theorem step_change (h : session.Attends pipeline texts last) (change : FileChange) :
    session.step (.change change) =
      match (change.textOf? session.watcher.place).filter (· ≠ last) with
      | none =>
        { session with
          files := change.apply session.files
          live := session.live.settle
          now := session.now + session.watcher.window }
      | some text =>
        { files := change.apply session.files
          watcher := { session.watcher with stage := .watching ⟨session.watcher.window, none⟩ text }
          live := (session.live.submit text).2.settle
          now := session.now + session.watcher.window } := by
  obtain ⟨files, ⟨place, window, stage⟩, live, now⟩ := session
  obtain rfl : stage = .watching ⟨window, none⟩ last := h.stage
  by_cases hplace : change.place = place
  · have hrecord : Watcher.record ⟨place, window, .watching ⟨window, none⟩ last⟩ now change.event =
        ⟨place, window, .watching ⟨window, some ⟨change.event.kind, now + window⟩⟩ last⟩ := by
      rw [Watcher.record_eq rfl, if_pos (by simpa using hplace.symm)]
      rfl
    have hnew : Watcher.newText? (change.apply files) place change.event.kind last =
        (change.textOf? place).filter (· ≠ last) :=
      FileChange.newText?_apply hplace h.place_ne last
    simp only [step, hrecord, settle]
    rw [Watcher.poll_of_isReady rfl rfl (Nat.le_refl (now + window)), hnew]
    cases (change.textOf? place).filter (· ≠ last) <;> rfl
  · -- another file changed, so nothing is recorded
    have hrecord : Watcher.record ⟨place, window, .watching ⟨window, none⟩ last⟩ now change.event =
        ⟨place, window, .watching ⟨window, none⟩ last⟩ := by
      rw [Watcher.record_eq rfl, if_neg (by simpa using Ne.symm hplace)]
    simp only [step, hrecord, settle, FileChange.textOf?_of_ne hplace]
    rw [Watcher.poll_of_not_isReady rfl rfl]
    rfl

@[simp] theorem step_place (session : WatchSession) (step : WatchStep) :
    (session.step step).watcher.place = session.watcher.place := by
  cases step with
  | change change => exact (Watcher.place_poll).trans (Watcher.place_record _)
  | stop => rfl

/-- **A change keeps a session between two steps**, with one more text submitted if the change gives
the document another one. -/
theorem Attends.change (h : session.Attends pipeline texts last) (change : FileChange) :
    (session.step (.change change)).Attends pipeline
      (texts ++ ((change.textOf? session.watcher.place).filter (· ≠ last)).toList)
      ((change.textOf? session.watcher.place).getD last) := by
  rw [step_change h]
  cases htext : change.textOf? session.watcher.place with
  | none => simpa using ⟨h.stage, h.place_ne, h.last_eq, h.published.settle⟩
  | some text =>
    by_cases hsame : text = last
    · have hnone : (some text).filter (· ≠ last) = none := by simp [hsame]
      rw [hnone, Option.getD_some, hsame, Option.toList_none, List.append_nil]
      exact ⟨h.stage, h.place_ne, h.last_eq, h.published.settle⟩
    · have hsome : (some text).filter (· ≠ last) = some text := by simp [hsame]
      rw [hsome, Option.getD_some, Option.toList_some]
      exact ⟨rfl, h.place_ne, by simp, h.published.submit text⟩

/-- A session in which the watcher has stopped. -/
structure Rests (pipeline : Pipeline) (texts : List String) (session : WatchSession) : Prop where
  stage : session.watcher.stage = .stopped
  published : session.live.Published pipeline texts

theorem Attends.stop (h : session.Attends pipeline texts last) :
    (session.step .stop).Rests pipeline texts := ⟨rfl, h.published⟩

/-- **A stopped watcher does nothing more.** -/
theorem Rests.step (h : session.Rests pipeline texts) (step : WatchStep) :
    (session.step step).Rests pipeline texts := by
  cases step with
  | stop => exact ⟨rfl, h.published⟩
  | change change =>
    obtain ⟨files, ⟨place, window, stage⟩, live, now⟩ := session
    obtain rfl : stage = .stopped := h.stage
    exact ⟨rfl, h.published.settle⟩

/-- **What a step publishes**: a new revision if it gives the document another text, and nothing
otherwise. -/
theorem Attends.latest_step (h : session.Attends pipeline texts last) (step : WatchStep) :
    (step.Renews session.watcher.place last →
      (session.step step).live.latest.revision = session.live.latest.revision + 1) ∧
    (¬ step.Renews session.watcher.place last →
      (session.step step).live.latest = session.live.latest) := by
  cases step with
  | stop =>
    refine ⟨?_, fun _ => rfl⟩
    rintro ⟨text, htext, -⟩
    cases htext
  | change change =>
    have hlatest := (h.change change).published.latest
    have hbefore := h.published.latest
    constructor
    · rintro ⟨text, htext, hnew⟩
      change change.textOf? session.watcher.place = some text at htext
      rw [hlatest, hbefore, Snapshot.revision_ofTexts, Snapshot.revision_ofTexts, htext]
      simp [hnew, Option.filter]
    · intro hrenews
      have hnone : (change.textOf? session.watcher.place).filter (· ≠ last) = none := by
        rw [Option.filter_eq_none_iff]
        exact fun text htext hnew => hrenews ⟨text, htext, of_decide_eq_true hnew⟩
      rw [hlatest, hbefore, hnone, Option.toList_none, List.append_nil]

/-- Nothing is published once the watcher has stopped. -/
theorem Rests.latest_step (h : session.Rests pipeline texts) (step : WatchStep) :
    (session.step step).live.latest = session.live.latest :=
  (h.step step).published.latest.trans h.published.latest.symm

/-! ## Sessions -/

/-- Make some steps, one after the other. -/
def run (session : WatchSession) (steps : List WatchStep) : WatchSession := steps.foldl step session

theorem run_concat (session : WatchSession) (steps : List WatchStep) (step : WatchStep) :
    session.run (steps ++ [step]) = (session.run steps).step step := by
  simp [run]

/-- **The snapshots of a session** are those published after each of its beginnings. -/
theorem snapshots_eq (session : WatchSession) (steps : List WatchStep) :
    session.snapshots steps = steps.inits.map fun before => (session.run before).live.latest := by
  induction steps generalizing session with
  | nil => rfl
  | cons step rest ih =>
    rw [snapshots, ih, List.inits, List.map_cons, List.map_map]
    rfl

/-- What a session is after some steps, before a stop and after one. -/
theorem run_invariant {first : String} (h : session.Attends pipeline [first] first)
    (steps : List WatchStep) :
    (session.run steps).watcher.place = session.watcher.place ∧
      (.stop ∉ steps → ∃ texts, (session.run steps).Attends pipeline texts
        (recentText session.watcher.place first steps)) ∧
      (.stop ∈ steps → ∃ texts, (session.run steps).Rests pipeline texts) := by
  induction steps using List.reverseRecOn with
  | nil => exact ⟨rfl, fun _ => ⟨[first], h⟩, fun hstop => nomatch hstop⟩
  | append_singleton steps step ih =>
    obtain ⟨hplace, hattends, hrests⟩ := ih
    rw [run_concat, recentText_concat]
    refine ⟨(step_place _ step).trans hplace, fun hwatching => ?_, fun hstop => ?_⟩
    · rw [List.mem_append, not_or, List.mem_singleton] at hwatching
      obtain ⟨texts, hsession⟩ := hattends hwatching.1
      cases step with
      | stop => exact absurd rfl hwatching.2
      | change change =>
        have hnext := hsession.change change
        rw [hplace] at hnext
        exact ⟨_, hnext⟩
    · by_cases hbefore : .stop ∈ steps
      · obtain ⟨texts, hsession⟩ := hrests hbefore
        exact ⟨texts, hsession.step step⟩
      · obtain ⟨texts, hsession⟩ := hattends hbefore
        obtain rfl : step = .stop := by simpa [hbefore, eq_comm] using hstop
        exact ⟨texts, hsession.stop⟩

end WatchSession

/-! ## The start -/

section Start

variable {pipeline : Pipeline} {files : FileTable} {here : Location} {path : String} {window : Nat}

/-- **Nothing is done until the text is read.** Starting with one effect after the other has the
effects of all steps if none of them fails, and otherwise none. -/
theorem WatchHandle.run_start (handle : WatchHandle) :
    (WatchHandle.start files here window).run.run handle =
      match Watcher.start files here handle.path window handle.live with
      | .error cause => (.error cause, handle)
      | .ok started => (.ok started.1, ⟨started.1.place.text, started.2⟩) := by
  have hrun (opening : Except WatchError Watcher) :
      ((do let opened ← ExceptT.mk (pure opening); proceed opened) :
        ExceptT WatchError (StateM WatchHandle) Watcher).run.run handle =
      match opening.bind fun opened => .ok
        ((opened.submitFirst handle.live).1.register, (opened.submitFirst handle.live).2) with
      | .error cause => (.error cause, handle)
      | .ok started => (.ok started.1, ⟨started.1.place.text, started.2⟩) := by
    cases opening <;> rfl
  exact hrun (Watcher.openFile files here handle.path window)

/-- **A session that has started attends to its document**, and the text of that is published. -/
theorem WatchSession.attends_start {session : WatchSession}
    (h : WatchSession.start pipeline files here path window = .ok session) :
    ∃ first, files.read here path = .ok first ∧ session.Attends pipeline [first] first := by
  rw [WatchSession.start, WatchHandle.run_start] at h
  cases hstart : Watcher.start files here path window { pipeline } with
  | error cause =>
    rw [hstart] at h
    cases h
  | ok started =>
    rw [hstart] at h
    obtain ⟨place, text, hplace, hroot, htext, hwatcher, hlive⟩ := Watching.start_eq_begin hstart
    obtain ⟨watcher, live⟩ := started
    obtain rfl := hwatcher
    obtain rfl := hlive
    obtain rfl := Except.ok.inj h
    refine ⟨text, ?_, rfl, hroot, rfl, (Live.Published.init pipeline).submit text⟩
    rw [FileTable.read, hplace]
    exact htext

/-- **A session starts just when the document can be read.** -/
theorem WatchSession.start_isOk_iff :
    (∃ session, WatchSession.start pipeline files here path window = .ok session) ↔
      ∃ first, files.read here path = .ok first := by
  constructor
  · rintro ⟨session, hstart⟩
    obtain ⟨first, hread, -⟩ := attends_start hstart
    exact ⟨first, hread⟩
  · rintro ⟨first, hread⟩
    unfold FileTable.read at hread
    cases hplace : files.resolve here path with
    | error cause =>
      rw [hplace] at hread
      cases hread
    | ok place =>
      rw [hplace] at hread
      rw [start, WatchHandle.run_start, Watcher.start, Watcher.openFile_of_textAt hplace hread]
      exact ⟨_, rfl⟩

end Start

/-! ## What is published -/

/-- **What a session publishes, one settled step at a time.** If the start fails, nothing was
submitted, and the path is the one that was given. It succeeds just when the document can be read,
and the text of that is published first, as revision 1. After any steps without a stop, the text
that the document had most recently is published, which is also the one that the watcher submitted
last; the next step publishes one more revision if it gives the document another text, and nothing
otherwise. After a stop, no step publishes anything. -/
theorem WatchSession.published_settled (pipeline : Pipeline) (files : FileTable) (here : Location)
    (path : String) (window : Nat) :
    (∀ (live : Live) (cause : WatchError) (handle : WatchHandle),
      (WatchHandle.start files here window).run.run ⟨path, live⟩ = (.error cause, handle) →
        handle = ⟨path, live⟩) ∧
    ((∃ session, WatchSession.start pipeline files here path window = .ok session) ↔
      ∃ first, files.read here path = .ok first) ∧
    ∀ session, WatchSession.start pipeline files here path window = .ok session →
      ∃ first, files.read here path = .ok first ∧
        session.live.latest = ⟨1, pipeline.render first⟩ ∧
        (∀ steps, session.snapshots steps =
          steps.inits.map fun before => (session.run before).live.latest) ∧
        ∀ before : List WatchStep,
          (.stop ∉ before →
            let recent := recentText session.watcher.place first before
            (session.run before).live.latest.rendition = pipeline.render recent ∧
            (∃ debouncer, (session.run before).watcher.stage = .watching debouncer recent) ∧
            ∀ step : WatchStep,
              (step.Renews session.watcher.place recent →
                (session.run (before ++ [step])).live.latest.revision =
                  (session.run before).live.latest.revision + 1) ∧
              (¬ step.Renews session.watcher.place recent →
                (session.run (before ++ [step])).live.latest =
                  (session.run before).live.latest)) ∧
          (.stop ∈ before → ∀ step : WatchStep,
            (session.run (before ++ [step])).live.latest = (session.run before).live.latest) := by
  refine ⟨fun live cause handle hstart => ?_, start_isOk_iff, fun session hstart => ?_⟩
  · rw [WatchHandle.run_start] at hstart
    cases hsteps : Watcher.start files here path window live with
    | error cause =>
      rw [hsteps] at hstart
      exact (Prod.mk.inj hstart).2.symm
    | ok started =>
      rw [hsteps] at hstart
      cases (Prod.mk.inj hstart).1
  · obtain ⟨first, hread, hsession⟩ := attends_start hstart
    refine ⟨first, hread, hsession.published.latest, session.snapshots_eq, fun before => ?_⟩
    obtain ⟨hsame, hattends, hrests⟩ := run_invariant hsession before
    refine ⟨fun hwatching => ?_, fun hstop step => ?_⟩
    · obtain ⟨texts, hnow⟩ := hattends hwatching
      refine ⟨?_, ⟨_, hnow.stage⟩, fun step => ?_⟩
      · rw [hnow.published.latest, Snapshot.ofTexts, hnow.last_eq]
      · rw [run_concat, ← hsame]
        rw [← hsame] at hnow
        exact hnow.latest_step step
    · obtain ⟨texts, hnow⟩ := hrests hstop
      rw [run_concat]
      exact hnow.latest_step step

/-- Another file gets a text, the document is removed, and it is made again with bytes that are no
text. -/
def quietSteps : List WatchStep :=
  [.change (.create ["other.md"] "new".toUTF8), .change (.remove ["doc.md"]),
    .change (.create ["doc.md"] ⟨#[0xff]⟩)]

theorem WatchSession.published_settled_oneDocument :
    ((WatchHandle.start Watching.oneDocument [] 2).run.run ⟨"no.md", {}⟩).2 = ⟨"no.md", {}⟩ ∧
    ∃ session, WatchSession.start {} Watching.oneDocument [] "doc.md" 2 = .ok session ∧
      session.live.latest = ⟨1, Pipeline.render {} "old"⟩ ∧
      (session.run quietSteps).live.latest.rendition = Pipeline.render {} "old" ∧
      (session.run (quietSteps ++ [.change (.write ["doc.md"] "old".toUTF8)])).live.latest =
        (session.run quietSteps).live.latest ∧
      (session.run
        (quietSteps ++ [.change (.moveOver ["doc.md"] "new".toUTF8)])).live.latest.revision =
          (session.run quietSteps).live.latest.revision + 1 ∧
      (session.run ((quietSteps ++ [.stop]) ++
        [.change (.write ["doc.md"] "new".toUTF8)])).live.latest =
          (session.run (quietSteps ++ [.stop])).live.latest := by
  have hmissing : Watching.oneDocument.resolve [] "no.md" = .error .notFound := by
    rw [FileTable.resolve_relative (by decide) (by simp) (by decide) (by decide +kernel)]
    rfl
  have hplace : Watching.oneDocument.resolve [] "doc.md" = .ok ["doc.md"] := by
    rw [FileTable.resolve_relative (by decide) (by simp) (by decide) (by decide +kernel)]
    rfl
  have hold : String.fromUTF8? "old".toUTF8 = some "old" := by decide
  have hnew : String.fromUTF8? "new".toUTF8 = some "new" := by decide
  have htext : Watching.oneDocument.textAt ["doc.md"] = .ok "old" :=
    FileTable.textAt_eq_ok_iff.mpr ⟨_, rfl, hold⟩
  have hfails : ((WatchHandle.start Watching.oneDocument [] 2).run.run ⟨"no.md", {}⟩).1 =
      .error (.read "no.md" .notFound) := by
    rw [WatchHandle.run_start, Watcher.start, Watcher.openFile, hmissing]
    rfl
  have hopens : ∃ session, WatchSession.start {} Watching.oneDocument [] "doc.md" 2 = .ok session ∧
      session.watcher.place = ["doc.md"] := by
    rw [WatchSession.start, WatchHandle.run_start, Watcher.start,
      Watcher.openFile_of_textAt hplace htext]
    exact ⟨_, rfl, rfl⟩
  refine ⟨(published_settled {} Watching.oneDocument [] "no.md" 2).1 {} (.read "no.md" .notFound) _
    (Prod.ext hfails rfl), ?_⟩
  obtain ⟨session, hstart, hsession⟩ := hopens
  obtain ⟨first, hfirst, hlatest, -, hsteps⟩ :=
    (published_settled {} Watching.oneDocument [] "doc.md" 2).2.2 session hstart
  have hread : Watching.oneDocument.read [] "doc.md" = .ok "old" := by
    rw [FileTable.read, hplace]
    exact htext
  obtain rfl : first = "old" := Except.ok.inj (hfirst.symm.trans hread)
  have hrecent : recentText session.watcher.place "old" quietSteps = "old" := by
    rw [hsession]
    decide
  obtain ⟨hquiet, -, hstep⟩ := (hsteps quietSteps).1 (by simp [quietSteps])
  rw [hrecent, hsession] at hstep
  rw [hrecent] at hquiet
  refine ⟨session, hstart, hlatest, hquiet, (hstep _).2 ?_, (hstep _).1 ?_, ?_⟩
  · rintro ⟨text, htext, hother⟩
    exact hother (Option.some.inj (htext.symm.trans hold))
  · exact ⟨"new", hnew, by decide⟩
  · exact (hsteps (quietSteps ++ [.stop])).2 (by simp) _

end MarkView
