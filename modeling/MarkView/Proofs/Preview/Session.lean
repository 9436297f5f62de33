import MarkView.Preview.LiveSession
import Mathlib.Data.List.TakeWhile
/-!
# What a session with a live preview shows

One user submits texts and asks for what is published, and the worker runs only while the user
waits. The texts submitted so far can be read off the requests alone (`submittedTexts`), and so
can whether the worker lives. `Follows` and `Awaits` say what a live preview is in terms of them:
some text of theirs is published, and what was submitted after it waits in the queue, in order.
So letting the worker run publishes the last text (`settle_eq`), and every reply is accounted for
(`session_replies`).

A subscriber looks at versions and the user at revisions. That both tell the same rests on what
every step of the worker does to the two (`Advances`): it leaves them alone, or it raises both.
-/

namespace MarkView

namespace Snapshot

/-- The snapshot of the last of some texts, or the initial one if there are none. -/
def ofTexts (pipeline : Pipeline) (texts : List String) : Snapshot :=
  match texts.getLast? with
  | some text => ⟨texts.length, pipeline.render text⟩
  | none => .initial

/-- A snapshot of the empty document, or of the text that has its revision. -/
def Genuine (pipeline : Pipeline) (texts : List String) (snapshot : Snapshot) : Prop :=
  snapshot = ⟨0, Rendition.empty⟩ ∨ ∃ text, 0 < snapshot.revision ∧
    texts[snapshot.revision - 1]? = some text ∧ snapshot.rendition = pipeline.render text

theorem revision_ofTexts (pipeline : Pipeline) (texts : List String) :
    (ofTexts pipeline texts).revision = texts.length := by
  unfold ofTexts
  split
  · rfl
  · next h => rw [List.getLast?_eq_none_iff.mp h]; rfl

theorem ofTexts_concat (pipeline : Pipeline) (texts : List String) (text : String) :
    ofTexts pipeline (texts ++ [text]) = ⟨texts.length + 1, pipeline.render text⟩ := by
  simp [ofTexts]

/-- The snapshot of the last of the first few texts is genuine. -/
theorem genuine_ofTexts_take (pipeline : Pipeline) (texts : List String) (n : Nat) :
    (ofTexts pipeline (texts.take n)).Genuine pipeline texts := by
  rcases List.eq_nil_or_concat (texts.take n) with hnil | ⟨earlier, text, hlast⟩
  · rw [hnil]
    exact .inl rfl
  · rw [List.concat_eq_append] at hlast
    refine .inr ⟨text, ?_⟩
    rw [hlast, ofTexts_concat]
    refine ⟨Nat.succ_pos _, ?_, rfl⟩
    have hlen : earlier.length < n := by
      have h := congrArg List.length hlast
      rw [List.length_take, List.length_append, List.length_singleton] at h
      omega
    have hget : (texts.take n)[earlier.length]? = some text := by simp [hlast]
    rwa [List.getElem?_take_of_lt hlen] at hget

end Snapshot

/-- The edits that some texts are submitted as. -/
def editsOf (texts : List String) : List Edit := texts.mapIdx fun i text => ⟨i + 1, text⟩

theorem editsOf_concat (texts : List String) (text : String) :
    editsOf (texts ++ [text]) = editsOf texts ++ [⟨texts.length + 1, text⟩] := by
  simp [editsOf, List.mapIdx_append]

@[simp] theorem length_editsOf (texts : List String) : (editsOf texts).length = texts.length :=
  List.length_mapIdx

theorem increasing_editsOf (texts : List String) :
    (editsOf texts).Pairwise (·.revision < ·.revision) := by
  rw [List.pairwise_iff_getElem]
  intro i j hi hj hij
  simp only [editsOf, List.getElem_mapIdx]
  omega

theorem getLast?_editsOf (texts : List String) :
    (editsOf texts).getLast? = texts.getLast?.map (⟨texts.length, ·⟩) := by
  rcases List.eq_nil_or_concat texts with rfl | ⟨earlier, text, rfl⟩
  · rfl
  · rw [List.concat_eq_append, editsOf_concat, List.getLast?_concat, List.getLast?_concat,
      List.length_append]
    rfl

/-- Of edits in the order of their revisions the last is the newest. -/
theorem getLast?_eq_foldl_newer {edit : Edit} {rest : List Edit}
    (h : (edit :: rest).Pairwise (·.revision < ·.revision)) :
    (edit :: rest).getLast? = some (rest.foldl Edit.newer edit) := by
  induction rest generalizing edit with
  | nil => rfl
  | cons next rest ih =>
    have hlt : edit.revision < next.revision := List.rel_of_pairwise_cons h (by simp)
    have hnext : edit.newer next = next := if_pos hlt
    rw [List.getLast?_cons_cons, List.foldl_cons, hnext]
    exact ih h.of_cons

namespace Live

variable {pipeline : Pipeline} {texts : List String} {live : Live}

/-- A live preview that the given texts were submitted to. One of them is published, or none
yet. -/
structure Follows (pipeline : Pipeline) (texts : List String) (live : Live) : Prop where
  pipeline_eq : live.pipeline = pipeline
  next : live.next = texts.length + 1
  le_length : live.latest.revision ≤ texts.length
  latest : live.latest = .ofTexts pipeline (texts.take live.latest.revision)

/-- A live preview whose worker has yet to look at all texts after the one published. -/
structure Awaits (texts : List String) (live : Live) : Prop where
  work : live.work = .waiting
  queue : live.queue = (editsOf texts).drop live.latest.revision

theorem Follows.init (pipeline : Pipeline) : Follows pipeline [] { pipeline } :=
  ⟨rfl, rfl, Nat.le_refl 0, rfl⟩

theorem Awaits.init (pipeline : Pipeline) : Awaits [] { pipeline } := ⟨rfl, rfl⟩

/-- Submitting a text uses up a revision, and a worker that runs gets the edit. -/
theorem submit_eq (live : Live) (text : String) : live.submit text =
    (live.next, { live with
      next := live.next + 1
      queue := if live.isRunning then live.queue ++ [⟨live.next, text⟩] else live.queue }) := by
  have hsend : live.submit text =
      (live.next, ({ live with next := live.next + 1 } : Live).send ⟨live.next, text⟩) := rfl
  rw [hsend]
  cases h : live.work <;> simp [send, isRunning, h]

/-- Submitting a text leaves what is published alone. -/
theorem Follows.submit (h : live.Follows pipeline texts) (text : String) :
    (live.submit text).2.Follows pipeline (texts ++ [text]) := by
  have htake : (texts ++ [text]).take live.latest.revision = texts.take live.latest.revision :=
    List.take_append_of_le_length h.le_length
  rw [submit_eq]
  refine ⟨h.pipeline_eq, ?_, ?_, ?_⟩
  · simp [h.next]
  · have hle := h.le_length
    simp only [List.length_append]
    omega
  · rw [htake]
    exact h.latest

theorem Awaits.submit (h : live.Awaits texts) (hf : live.Follows pipeline texts) (text : String) :
    (live.submit text).2.Awaits (texts ++ [text]) := by
  have hrunning : live.isRunning = true := by simp [isRunning, h.work]
  have hdrop : live.latest.revision ≤ (editsOf texts).length := by
    rw [length_editsOf]
    exact hf.le_length
  rw [submit_eq, if_pos hrunning]
  refine ⟨h.work, ?_⟩
  rw [editsOf_concat, List.drop_append_of_le_length hdrop, h.queue, hf.next]

theorem Follows.kill (h : live.Follows pipeline texts) : live.kill.Follows pipeline texts :=
  ⟨h.pipeline_eq, h.next, h.le_length, h.latest⟩

/-- If anything waits, the newest of it is the text submitted last, which is not published yet. -/
theorem Awaits.newest (h : live.Awaits texts) {edit : Edit} {rest : List Edit}
    (hqueue : live.queue = edit :: rest) :
    live.latest.revision < texts.length ∧ ∃ text, texts.getLast? = some text ∧
      rest.foldl Edit.newer edit = ⟨texts.length, text⟩ := by
  have hwaiting : (editsOf texts).drop live.latest.revision = edit :: rest :=
    h.queue.symm.trans hqueue
  have hlast : ((editsOf texts).drop live.latest.revision).getLast? =
      some (rest.foldl Edit.newer edit) := by
    have hsorted := (increasing_editsOf texts).sublist (List.drop_sublist live.latest.revision _)
    rw [hwaiting] at hsorted ⊢
    exact getLast?_eq_foldl_newer hsorted
  rw [List.getLast?_drop, length_editsOf] at hlast
  have hlt : ¬ texts.length ≤ live.latest.revision := by
    intro hle
    rw [if_pos hle] at hlast
    cases hlast
  rw [if_neg hlt, getLast?_editsOf, Option.map_eq_some_iff] at hlast
  obtain ⟨text, htext, hnewest⟩ := hlast
  exact ⟨Nat.lt_of_not_le hlt, text, htext, hnewest.symm⟩

/-- **Left alone, the worker publishes the text submitted last**, unless it is published already. -/
theorem Awaits.settle_eq (h : live.Awaits texts) (hf : live.Follows pipeline texts) :
    ∃ version,
      live.settle = { live with queue := [], latest := .ofTexts pipeline texts, version } := by
  cases hqueue : live.queue with
  | nil =>
    -- everything was published before
    have hall : live.latest.revision = texts.length := by
      have hdrop := congrArg List.length (h.queue.symm.trans hqueue)
      rw [List.length_drop, length_editsOf, List.length_nil] at hdrop
      have hle := hf.le_length
      omega
    have hlatest := hf.latest
    rw [hall, List.take_length] at hlatest
    refine ⟨live.version, ?_⟩
    rw [settle_of_waiting_nil h.work hqueue, ← hlatest, ← hqueue]
  | cons edit rest =>
    obtain ⟨hlt, text, htext, hnewest⟩ := h.newest hqueue
    have hnew : ¬ texts.length ≤ live.latest.revision := Nat.not_le_of_lt hlt
    refine ⟨live.version + 1, ?_⟩
    rw [settle_of_waiting_cons h.work hqueue, hnewest, publish, if_neg hnew, Snapshot.ofTexts,
      htext, hf.pipeline_eq, h.work]

theorem Awaits.latest_settle (h : live.Awaits texts) (hf : live.Follows pipeline texts) :
    live.settle.latest = .ofTexts pipeline texts := by
  obtain ⟨version, hsettle⟩ := h.settle_eq hf
  rw [hsettle]

theorem Awaits.follows_settle (h : live.Awaits texts) (hf : live.Follows pipeline texts) :
    live.settle.Follows pipeline texts := by
  obtain ⟨version, hsettle⟩ := h.settle_eq hf
  rw [hsettle]
  refine ⟨hf.pipeline_eq, hf.next, ?_, ?_⟩
  · simp [Snapshot.revision_ofTexts]
  · simp [Snapshot.revision_ofTexts]

theorem Awaits.settle (h : live.Awaits texts) (hf : live.Follows pipeline texts) :
    live.settle.Awaits texts := by
  obtain ⟨version, hsettle⟩ := h.settle_eq hf
  rw [hsettle]
  refine ⟨h.work, ?_⟩
  simp [Snapshot.revision_ofTexts]

/-! ## Versions and revisions -/

/-- A later state of a live preview, as it shows to those who look now and then. -/
inductive Advances (live later : Live) : Prop
  /-- Nothing was published in between. -/
  | still (version : later.version = live.version) (latest : later.latest = live.latest)
  /-- Something newer is published. -/
  | published (version : live.version < later.version)
      (revision : live.latest.revision < later.latest.revision)

namespace Advances

variable {earlier later : Live}

theorem refl (live : Live) : live.Advances live := .still rfl rfl

theorem version_le (h : live.Advances later) : live.version ≤ later.version := by
  obtain ⟨hversion, -⟩ | ⟨hversion, -⟩ := h <;> omega

theorem revision_le (h : live.Advances later) :
    live.latest.revision ≤ later.latest.revision := by
  obtain ⟨-, hlatest⟩ | ⟨-, hrevision⟩ := h
  · rw [hlatest]
  · omega

theorem trans (h : earlier.Advances live) (hlater : live.Advances later) :
    earlier.Advances later := by
  obtain ⟨hversion, hlatest⟩ | ⟨hversion, hrevision⟩ := h
  · obtain ⟨hversion', hlatest'⟩ | ⟨hversion', hrevision'⟩ := hlater
    · exact .still (hversion'.trans hversion) (hlatest'.trans hlatest)
    · rw [hversion] at hversion'
      rw [hlatest] at hrevision'
      exact .published hversion' hrevision'
  · have hle := hlater.revision_le
    have hle' := hlater.version_le
    exact .published (by omega) (by omega)

/-- **There is another version just when there is a greater revision.** -/
theorem version_ne_iff (h : live.Advances later) :
    later.version ≠ live.version ↔ live.latest.revision < later.latest.revision := by
  obtain ⟨hversion, hlatest⟩ | ⟨hversion, hrevision⟩ := h
  · rw [hversion, hlatest]
    omega
  · omega

end Advances

/-- What is published anew has a greater revision than what was published. -/
theorem advances_publish (live : Live) (edit : Edit) : live.Advances (live.publish edit) := by
  unfold publish
  split
  · exact .refl live
  · next hnew => exact .published (Nat.lt_succ_self _) (Nat.lt_of_not_le hnew)

theorem advances_step (live : Live) : live.Advances live.step := by
  unfold step
  split
  all_goals try exact .still rfl rfl
  next newest _ => exact (live.advances_publish newest).trans (.still rfl rfl)

/-- **No step of the worker publishes anything but what is newer**, and neither do many. -/
theorem advances_steps (live : Live) (n : Nat) : live.Advances (live.steps n) := by
  induction n generalizing live with
  | zero => exact .refl live
  | succ n ih => exact live.advances_step.trans (ih live.step)

theorem advances_settle (live : Live) : live.Advances live.settle := live.advances_steps _

end Live

/-! ## Reading requests and replies -/

/-- The text that a request submits. -/
def LiveRequest.text? : LiveRequest → Option String
  | .submit text => some text
  | _ => none

/-- The revision of what a reply shows as published. -/
def LiveReply.shown? : LiveReply → Option Nat
  | .snapshot shown => some shown.revision
  | .polled _ told => some told
  | _ => none

/-- A reply that shows anything shows the given snapshot, or the revision of it. -/
def LiveReply.Shows (published : Snapshot) : LiveReply → Prop
  | .snapshot shown => shown = published
  | .polled _ told => told = published.revision
  | _ => True

theorem LiveReply.Shows.revision {reply : LiveReply} {published : Snapshot}
    (h : reply.Shows published) : ∀ n ∈ reply.shown?, n = published.revision := by
  cases reply <;> simp_all [Shows, shown?]

/-- The revision that a poll told. -/
def LiveReply.polled? : LiveReply → Option Nat
  | .polled _ told => some told
  | _ => none

/-- The revision that the last poll told, or 0 before the first. -/
def lastPolled (replies : List LiveReply) : Nat :=
  (replies.filterMap LiveReply.polled?).getLast?.getD 0

/-- The texts that are submitted before the preview is closed. -/
def submittedTexts (requests : List LiveRequest) : List String :=
  (requests.takeWhile (· ≠ .shutdown)).filterMap LiveRequest.text?

/-- After these requests the worker still lives. -/
def Alive (requests : List LiveRequest) : Prop := .kill ∉ requests ∧ .shutdown ∉ requests

section Requests

variable {requests : List LiveRequest} {request : LiveRequest}

/-- A closed preview takes no more texts. -/
theorem submittedTexts_concat_of_mem (h : .shutdown ∈ requests) :
    submittedTexts (requests ++ [request]) = submittedTexts requests := by
  have hstop : (requests.takeWhile (· ≠ .shutdown)).length ≠ requests.length := by
    intro hlength
    have hself := (List.takeWhile_prefix (· ≠ LiveRequest.shutdown)).eq_of_length hlength
    have hne := List.takeWhile_eq_self_iff.mp hself .shutdown h
    simp at hne
  rw [submittedTexts, List.takeWhile_append, if_neg hstop]
  rfl

/-- An open one takes the text of every request that has one. -/
theorem submittedTexts_concat (h : .shutdown ∉ requests) :
    submittedTexts (requests ++ [request]) = submittedTexts requests ++ request.text?.toList := by
  have hall : requests.takeWhile (· ≠ .shutdown) = requests := by
    rw [List.takeWhile_eq_self_iff]
    exact fun other hmem => decide_eq_true (ne_of_mem_of_not_mem hmem h)
  have hlast : ([request].takeWhile (· ≠ .shutdown)).filterMap LiveRequest.text? =
      request.text?.toList := by
    cases request <;> rfl
  rw [submittedTexts, submittedTexts, List.takeWhile_append, hall, if_pos rfl,
    List.filterMap_append, hlast]

theorem submittedTexts_concat_of_text?_none (h : request.text? = none) :
    submittedTexts (requests ++ [request]) = submittedTexts requests := by
  by_cases hclosed : .shutdown ∈ requests
  · exact submittedTexts_concat_of_mem hclosed
  · rw [submittedTexts_concat hclosed, h, Option.toList_none, List.append_nil]

theorem alive_concat : Alive (requests ++ [request]) ↔
    Alive requests ∧ request ≠ .kill ∧ request ≠ .shutdown := by
  simp only [Alive, List.mem_append, List.mem_singleton, not_or, ne_comm (a := request)]
  constructor
  · rintro ⟨⟨hkill, hk⟩, hshutdown, hs⟩
    exact ⟨⟨hkill, hshutdown⟩, hk, hs⟩
  · rintro ⟨⟨hkill, hshutdown⟩, hk, hs⟩
    exact ⟨⟨hkill, hk⟩, hshutdown, hs⟩

end Requests

namespace LiveSession

variable {pipeline : Pipeline} {before : List LiveRequest} {session : LiveSession}

/-! ## One request -/

/-- The session after the given requests. -/
structure Tracks (pipeline : Pipeline) (before : List LiveRequest) (session : LiveSession) :
    Prop where
  isOpen : session.isOpen = true ↔ .shutdown ∉ before
  running : session.live.isRunning = true ↔ Alive before
  follows : session.live.Follows pipeline (submittedTexts before)
  awaits : Alive before → session.live.Awaits (submittedTexts before)

theorem Tracks.init (pipeline : Pipeline) : Tracks pipeline [] { live := { pipeline } } where
  isOpen := by simp
  running := by simp [Alive, Live.isRunning]
  follows := .init pipeline
  awaits := fun _ => .init pipeline

/-- **A text is submitted** under the next revision while the preview is open. -/
theorem Tracks.submit (h : Tracks pipeline before session) (text : String) :
    Tracks pipeline (before ++ [.submit text]) (session.step (.submit text)).2 := by
  by_cases hopen : .shutdown ∈ before
  · have hclosed : session.isOpen = false := by
      simpa using mt h.isOpen.mp (not_not_intro hopen)
    have hstep : (session.step (.submit text)).2 = session := by simp [step, hclosed]
    rw [hstep]
    refine ⟨?_, ?_, ?_, ?_⟩
    · simpa using h.isOpen
    · simpa [alive_concat] using h.running
    · rw [submittedTexts_concat_of_mem hopen]
      exact h.follows
    · exact fun halive => absurd hopen (alive_concat.mp halive).1.2
  · have hstep : (session.step (.submit text)).2 =
        { session with live := (session.live.submit text).2 } := by
      simp [step, h.isOpen.mpr hopen]
    have hrunning : (session.live.submit text).2.isRunning = session.live.isRunning := by
      rw [Live.submit_eq]
      rfl
    rw [hstep]
    refine ⟨?_, ?_, ?_, ?_⟩
    · simpa using h.isOpen
    · simpa [alive_concat, hrunning] using h.running
    · rw [submittedTexts_concat hopen]
      exact h.follows.submit text
    · intro halive
      rw [submittedTexts_concat hopen]
      exact (h.awaits (alive_concat.mp halive).1).submit h.follows text

/-- A request that changes no more than what is published, as the worker does it. -/
theorem Tracks.of_live (h : Tracks pipeline before session) {next : Live} (request : LiveRequest)
    (htext : request.text? = none) (hkill : request ≠ .kill) (hshutdown : request ≠ .shutdown)
    (hsame : next = session.live ∨ Alive before ∧ next = session.live.settle) (seen : Nat) :
    Tracks pipeline (before ++ [request]) { session with live := next, seen } := by
  have hbefore : Alive (before ++ [request]) ↔ Alive before := by
    simp [alive_concat, hkill, hshutdown]
  have hlast : .shutdown ∉ before ++ [request] ↔ .shutdown ∉ before := by
    simp [hshutdown.symm]
  rcases hsame with rfl | ⟨halive, rfl⟩
  · refine ⟨h.isOpen.trans hlast.symm, h.running.trans hbefore.symm, ?_, ?_⟩
    · rw [submittedTexts_concat_of_text?_none htext]
      exact h.follows
    · intro halive
      rw [submittedTexts_concat_of_text?_none htext]
      exact h.awaits (hbefore.mp halive)
  · have hawaits := h.awaits halive
    refine ⟨h.isOpen.trans hlast.symm, ?_, ?_, ?_⟩
    · have hrunning : session.live.settle.isRunning = true := by
        simp [Live.isRunning, (hawaits.settle h.follows).work]
      simp [hrunning, hbefore, halive]
    · rw [submittedTexts_concat_of_text?_none htext]
      exact hawaits.follows_settle h.follows
    · intro _
      rw [submittedTexts_concat_of_text?_none htext]
      exact hawaits.settle h.follows

theorem Tracks.wait (h : Tracks pipeline before session) (revision : Nat) :
    Tracks pipeline (before ++ [.wait revision]) (session.step (.wait revision)).2 := by
  simp only [step, LiveSession.wait]
  split
  · exact h.of_live (.wait revision) rfl nofun nofun (.inl rfl) session.seen
  split
  · exact h.of_live (.wait revision) rfl nofun nofun (.inl rfl) session.seen
  split
  · exact h.of_live (.wait revision) rfl nofun nofun (.inl rfl) session.seen
  · next hrunning =>
    have halive : Alive before := h.running.mp (by simpa using hrunning)
    exact h.of_live (.wait revision) rfl nofun nofun (.inr ⟨halive, rfl⟩) session.seen

theorem Tracks.poll (h : Tracks pipeline before session) :
    Tracks pipeline (before ++ [.poll]) (session.step .poll).2 := by
  simp only [step, LiveSession.poll]
  split
  · exact h.of_live .poll rfl nofun nofun (.inl rfl) _
  · exact h.of_live .poll rfl nofun nofun (.inl rfl) session.seen

/-- Once the worker is dead, what it left behind does not matter. -/
theorem Tracks.shutdown (h : Tracks pipeline before session) :
    Tracks pipeline (before ++ [.shutdown]) (session.step .shutdown).2 := by
  have hdead : ¬ Alive (before ++ [.shutdown]) := by simp [alive_concat]
  have htexts : submittedTexts (before ++ [.shutdown]) = submittedTexts before :=
    submittedTexts_concat_of_text?_none rfl
  simp only [step, LiveSession.shutdown]
  split
  · next hboth =>
    rw [Bool.and_eq_true] at hboth
    have halive : Alive before := h.running.mp hboth.2
    refine ⟨by simp, by simp [hdead, Live.isRunning, Live.kill], ?_, fun h => absurd h hdead⟩
    rw [htexts]
    exact ((h.awaits halive).follows_settle h.follows).kill
  · next hboth =>
    have hstopped : session.live.isRunning = true → False := fun hrunning =>
      hboth (by rw [h.isOpen.mpr (h.running.mp hrunning).2, hrunning]; rfl)
    refine ⟨by simp, ?_, ?_, fun h => absurd h hdead⟩
    · exact ⟨fun hrunning => (hstopped hrunning).elim, fun h => absurd h hdead⟩
    · rw [htexts]
      exact h.follows

theorem Tracks.kill (h : Tracks pipeline before session) :
    Tracks pipeline (before ++ [.kill]) (session.step .kill).2 := by
  have hdead : ¬ Alive (before ++ [.kill]) := by simp [alive_concat]
  refine ⟨?_, ?_, ?_, fun h => absurd h hdead⟩
  · simpa [step] using h.isOpen
  · simp [step, hdead, Live.isRunning, Live.kill]
  · rw [submittedTexts_concat_of_text?_none rfl]
    exact h.follows.kill

/-- **Every request keeps track.** -/
theorem Tracks.step (h : Tracks pipeline before session) (request : LiveRequest) :
    Tracks pipeline (before ++ [request]) (session.step request).2 := by
  cases request with
  | submit text => exact h.submit text
  | wait revision => exact h.wait revision
  | latest => exact h.of_live .latest rfl nofun nofun (.inl rfl) session.seen
  | poll => exact h.poll
  | shutdown => exact h.shutdown
  | kill => exact h.kill

/-- What a request does to the live preview. -/
inductive Effect (session : LiveSession) : LiveRequest → Live → Prop
  /-- It is only looked at. -/
  | nothing (request : LiveRequest) : Effect session request session.live
  /-- It gets a text. -/
  | submits (text : String) : Effect session (.submit text) (session.live.submit text).2
  /-- The worker goes through the queue. -/
  | settles (revision : Nat) (running : session.live.isRunning = true) :
    Effect session (.wait revision) session.live.settle
  /-- The worker goes through the queue for the last time. -/
  | closes (running : session.live.isRunning = true) :
    Effect session .shutdown session.live.settle.kill
  /-- The worker is stopped where it is. -/
  | kills : Effect session .kill session.live.kill

theorem effect_step (session : LiveSession) (request : LiveRequest) :
    session.Effect request (session.step request).2.live := by
  cases request with
  | submit text =>
    simp only [LiveSession.step]
    split
    · exact .submits text
    · exact .nothing _
  | wait revision =>
    simp only [LiveSession.step, LiveSession.wait]
    split
    · exact .nothing _
    split
    · exact .nothing _
    split
    · exact .nothing _
    · next hrunning => exact .settles revision (by simpa using hrunning)
  | latest => exact .nothing _
  | poll =>
    simp only [LiveSession.step, LiveSession.poll]
    split <;> exact .nothing _
  | shutdown =>
    simp only [LiveSession.step, LiveSession.shutdown]
    split
    · next hboth => exact .closes (Bool.and_eq_true _ _ ▸ hboth).2
    · exact .nothing _
  | kill => exact .kills

/-- A request publishes nothing, unless the worker publishes something newer. -/
theorem Effect.advances {request : LiveRequest} {next : Live} (h : session.Effect request next) :
    session.live.Advances next := by
  cases h with
  | nothing => exact .refl _
  | submits text =>
    rw [Live.submit_eq]
    exact .still rfl rfl
  | settles revision hrunning => exact session.live.advances_settle
  | closes hrunning => exact session.live.advances_settle.trans (.still rfl rfl)
  | kills => exact .still rfl rfl

/-- **What is published changes only while the worker lives**, and then to the text submitted
last. -/
theorem Tracks.latest_of_effect (h : Tracks pipeline before session) {request : LiveRequest}
    {next : Live} (heffect : session.Effect request next) :
    next.latest = session.live.latest ∨
      Alive before ∧ next.latest = .ofTexts pipeline (submittedTexts before) := by
  cases heffect with
  | nothing => exact .inl rfl
  | submits text =>
    rw [Live.submit_eq]
    exact .inl rfl
  | settles revision hrunning =>
    have halive : Alive before := h.running.mp hrunning
    exact .inr ⟨halive, (h.awaits halive).latest_settle h.follows⟩
  | closes hrunning =>
    have halive : Alive before := h.running.mp hrunning
    exact .inr ⟨halive, (h.awaits halive).latest_settle h.follows⟩
  | kills => exact .inl rfl

/-- **What a reply shows is what stands published after it.** -/
theorem shows_step (session : LiveSession) (request : LiveRequest) :
    (session.step request).1.Shows (session.step request).2.live.latest := by
  cases request with
  | submit text =>
    simp only [step]
    split <;> trivial
  | wait revision =>
    simp only [step, LiveSession.wait]
    split
    · trivial
    split
    · rfl
    split
    · trivial
    split
    · rfl
    · trivial
  | latest => rfl
  | poll =>
    simp only [step, LiveSession.poll]
    split
    · rfl
    · trivial
  | shutdown | kill => trivial

/-- **The next revision** is what a submit gets, whether or not anyone will render it. -/
theorem Tracks.reply_submit (h : Tracks pipeline before session) (hopen : .shutdown ∉ before)
    (text : String) :
    (session.step (.submit text)).1 = .revision ((submittedTexts before).length + 1) := by
  simp only [LiveSession.step, h.isOpen.mpr hopen, if_true]
  rw [Live.submit_eq, h.follows.next]

/-- What is published is one of the texts that were submitted. -/
theorem Tracks.genuine_step (h : Tracks pipeline before session) (request : LiveRequest) :
    (session.step request).2.live.latest.Genuine pipeline (submittedTexts before) := by
  rcases h.latest_of_effect (session.effect_step request) with hsame | ⟨-, hnewest⟩
  · rw [hsame, h.follows.latest]
    exact Snapshot.genuine_ofTexts_take pipeline _ _
  · have hall := Snapshot.genuine_ofTexts_take pipeline (submittedTexts before)
      (submittedTexts before).length
    rwa [List.take_length, ← hnewest] at hall

/-- A living worker is done by the time that the user has waited. -/
theorem Tracks.reply_wait (h : Tracks pipeline before session) (halive : Alive before) {n : Nat}
    (hn : n ≤ (submittedTexts before).length) :
    ∃ snapshot, (session.step (.wait n)).1 = .snapshot snapshot ∧ n ≤ snapshot.revision := by
  have hopen : session.isOpen = true := h.isOpen.mpr halive.2
  have hrunning : session.live.isRunning = true := h.running.mpr halive
  have hsettled : n ≤ session.live.settle.latest.revision := by
    rw [(h.awaits halive).latest_settle h.follows]
    simpa [Snapshot.revision_ofTexts] using hn
  by_cases hpublished : n ≤ session.live.latest.revision
  · exact ⟨session.live.latest, by simp [LiveSession.step, LiveSession.wait, hopen, hpublished],
      hpublished⟩
  · refine ⟨session.live.settle.latest, ?_, hsettled⟩
    simp [LiveSession.step, LiveSession.wait, hopen, hpublished, hrunning, hsettled]

/-- Closing a preview whose worker lives publishes the text submitted last. -/
theorem Tracks.latest_shutdown (h : Tracks pipeline before session) (halive : Alive before) :
    (session.step .shutdown).2.live.latest = .ofTexts pipeline (submittedTexts before) := by
  have hboth : (session.isOpen && session.live.isRunning) = true := by
    rw [h.isOpen.mpr halive.2, h.running.mpr halive]
    rfl
  rw [LiveSession.step, LiveSession.shutdown, if_pos hboth]
  exact (h.awaits halive).latest_settle h.follows

/-! ## The subscriber -/

/-- The subscriber saw an earlier state of the preview. It was told the revision, and has the
version in mind. -/
def Saw (session : LiveSession) (told : Nat) : Prop :=
  ∃ earlier : Live, earlier.version = session.seen ∧ earlier.latest.revision = told ∧
    earlier.Advances session.live

/-- The subscriber sees something just when a poll is answered, and then what is published. -/
theorem seen_step (session : LiveSession) (request : LiveRequest) :
    (session.step request).1.polled? = none ∧ (session.step request).2.seen = session.seen ∨
      (session.step request).1.polled? = some (session.step request).2.live.latest.revision ∧
        (session.step request).2.seen = (session.step request).2.live.version := by
  cases request with
  | submit text =>
    left
    simp only [step]
    split <;> exact ⟨rfl, rfl⟩
  | wait revision =>
    left
    simp only [step, LiveSession.wait]
    split
    · exact ⟨rfl, rfl⟩
    split
    · exact ⟨rfl, rfl⟩
    split
    · exact ⟨rfl, rfl⟩
    split <;> exact ⟨rfl, rfl⟩
  | poll =>
    simp only [step, LiveSession.poll]
    split
    · exact .inr ⟨rfl, rfl⟩
    · exact .inl ⟨rfl, rfl⟩
  | shutdown =>
    left
    simp only [step, LiveSession.shutdown]
    split <;> exact ⟨rfl, rfl⟩
  | latest | kill => exact .inl ⟨rfl, rfl⟩

/-- **The subscriber keeps to what it saw last**, whatever is asked. -/
theorem Saw.step {told : Nat} (h : session.Saw told) (request : LiveRequest) :
    (session.step request).2.Saw ((session.step request).1.polled?.getD told) := by
  obtain ⟨hpolled, hseen⟩ | ⟨hpolled, hseen⟩ := session.seen_step request
  · obtain ⟨earlier, hversion, hrevision, hsince⟩ := h
    refine ⟨earlier, ?_, ?_, hsince.trans (session.effect_step request).advances⟩
    · rw [hseen, hversion]
    · rw [hpolled, Option.getD_none, hrevision]
  · refine ⟨(session.step request).2.live, hseen.symm, ?_, .refl _⟩
    rw [hpolled, Option.getD_some]

/-- **A poll finds a change just when there is a greater revision than it was told.** -/
theorem Saw.reply_poll {told : Nat} (h : session.Saw told)
    (hrunning : session.live.isRunning = true) :
    (session.step .poll).1 =
      .polled (decide (told < session.live.latest.revision)) session.live.latest.revision := by
  obtain ⟨earlier, hversion, hrevision, hsince⟩ := h
  have hchanged : (session.live.version != session.seen) =
      decide (told < session.live.latest.revision) := by
    rw [Bool.eq_iff_iff, bne_iff_ne, decide_eq_true_iff, ← hversion, ← hrevision]
    exact hsince.version_ne_iff
  rw [LiveSession.step, LiveSession.poll, if_pos hrunning, hchanged]

theorem lastPolled_concat (replies : List LiveReply) (reply : LiveReply) :
    lastPolled (replies ++ [reply]) = reply.polled?.getD (lastPolled replies) := by
  rw [lastPolled, lastPolled, List.filterMap_append]
  cases hpolled : reply.polled? <;> simp [hpolled]

/-- The replies so far, and the session after them: the subscriber saw what the last poll told, and
what the replies show does not decrease, and does not go beyond what is published. -/
structure Reports (replies : List LiveReply) (session : LiveSession) : Prop where
  saw : session.Saw (lastPolled replies)
  below : ∀ n ∈ replies.filterMap LiveReply.shown?, n ≤ session.live.latest.revision
  increasing : (replies.filterMap LiveReply.shown?).Pairwise (· ≤ ·)

theorem Reports.init (pipeline : Pipeline) : Reports [] { live := { pipeline } } :=
  ⟨⟨{ pipeline }, rfl, rfl, .refl _⟩, by simp, .nil⟩

theorem Reports.step {replies : List LiveReply} (h : Reports replies session)
    (request : LiveRequest) :
    Reports (replies ++ [(session.step request).1]) (session.step request).2 := by
  have hle := (session.effect_step request).advances.revision_le
  have hbelow : ∀ n ∈ replies.filterMap LiveReply.shown?,
      n ≤ (session.step request).2.live.latest.revision := fun n hn =>
    Nat.le_trans (h.below n hn) hle
  have hlatest := (shows_step session request).revision
  refine ⟨?_, ?_, ?_⟩
  · rw [lastPolled_concat]
    exact h.saw.step request
  · rw [List.filterMap_append, List.forall_mem_append]
    refine ⟨hbelow, fun last hlast => ?_⟩
    exact Nat.le_of_eq (hlatest last (by simpa using hlast))
  · rw [List.filterMap_append, List.pairwise_append]
    refine ⟨h.increasing, ?_, ?_⟩
    · cases hshown : (session.step request).1.shown? <;> simp [hshown]
    · intro n hn last hlast
      rw [hlatest last (by simpa using hlast)]
      exact hbelow n hn

/-! ## Runs -/

/-- A session that nothing has been asked of yet. -/
def start (pipeline : Pipeline) : LiveSession := { live := { pipeline } }

/-- What stands published after some requests. -/
def publishedAfter (pipeline : Pipeline) (requests : List LiveRequest) : Snapshot :=
  ((start pipeline).run requests).2.live.latest

theorem run_invariant {replies : List LiveReply} (htracks : Tracks pipeline before session)
    (hreports : Reports replies session) (requests : List LiveRequest) :
    Tracks pipeline (before ++ requests) (session.run requests).2 ∧
      Reports (replies ++ (session.run requests).1) (session.run requests).2 := by
  induction requests generalizing before replies session with
  | nil => simpa [run] using ⟨htracks, hreports⟩
  | cons request rest ih =>
    have h := ih (htracks.step request) (hreports.step request)
    simpa [run] using h

theorem tracks_run (pipeline : Pipeline) (requests : List LiveRequest) :
    Tracks pipeline requests ((start pipeline).run requests).2 := by
  have h := run_invariant (.init pipeline) (.init pipeline) requests
  exact h.1

theorem reports_run (pipeline : Pipeline) (requests : List LiveRequest) :
    Reports ((start pipeline).run requests).1 ((start pipeline).run requests).2 := by
  have h := run_invariant (.init pipeline) (.init pipeline) requests
  exact h.2

theorem length_run (session : LiveSession) (requests : List LiveRequest) :
    (session.run requests).1.length = requests.length := by
  induction requests generalizing session with
  | nil => rfl
  | cons request rest ih => simp [run, ih]

/-- **Each request is answered from the session after those before it.** -/
theorem run_getElem? (session : LiveSession) (requests : List LiveRequest) (i : Nat) :
    (session.run requests).1[i]? =
      requests[i]?.map fun request => ((session.run (requests.take i)).2.step request).1 := by
  induction requests generalizing session i with
  | nil => simp [run]
  | cons request rest ih =>
    cases i with
    | zero => simp [run]
    | succ i => simpa [run] using ih (session.step request).2 i

theorem run_take (session : LiveSession) (requests : List LiveRequest) (i : Nat) :
    (session.run (requests.take i)).1 = (session.run requests).1.take i := by
  induction requests generalizing session i with
  | nil => simp [run]
  | cons request rest ih =>
    cases i with
    | zero => simp [run]
    | succ i => simp [run, ih]

/-- A run goes on from where its first requests led. -/
theorem run_split {requests : List LiveRequest} {request : LiveRequest} {i : Nat}
    (session : LiveSession) (h : requests[i]? = some request) :
    (session.run requests).2 =
      (((session.run (requests.take i)).2.step request).2.run (requests.drop (i + 1))).2 := by
  induction requests generalizing session i with
  | nil => simp at h
  | cons first rest ih =>
    cases i with
    | zero =>
      obtain rfl : first = request := by simpa using h
      simp [run]
    | succ i => simpa [run] using ih (session.step first).2 (by simpa using h)

/-- **A dead worker publishes nothing.** -/
theorem latest_run_of_dead (htracks : Tracks pipeline before session) (hdead : ¬ Alive before)
    (requests : List LiveRequest) :
    (session.run requests).2.live.latest = session.live.latest := by
  induction requests generalizing before session with
  | nil => rfl
  | cons request rest ih =>
    have hstill : ¬ Alive (before ++ [request]) := fun h => hdead (alive_concat.mp h).1
    have hsame : (session.step request).2.live.latest = session.live.latest :=
      (htracks.latest_of_effect (session.effect_step request)).resolve_right fun h => hdead h.1
    exact (ih (htracks.step request) hstill).trans hsame

/-- **A session shows what was submitted, in order.** Each request of a run has one reply, and
of these:
* a submit before the first shutdown gets the number of submits so far, with or without a worker;
* every snapshot is the empty document at revision 0, or the rendition of the text that was
  submitted under its revision;
* the revisions that snapshots and polls show never decrease;
* a wait for a text that was submitted, while the worker lives, gives a snapshot of it or of a
  later one;
* a poll of a living worker tells the revision published, and a change just when that is greater
  than what the poll before told;
* after a kill nothing is published;
* after a shutdown that found the worker alive, what is published is the text submitted last; and
* what is published can be asked for at any time. -/
theorem session_replies (pipeline : Pipeline) (requests : List LiveRequest) :
    let replies := ((start pipeline).run requests).1
    replies.length = requests.length ∧
    (∀ i text, requests[i]? = some (.submit text) → .shutdown ∉ requests.take i →
      replies[i]? = some (.revision ((submittedTexts (requests.take i)).length + 1))) ∧
    (∀ i snapshot, replies[i]? = some (LiveReply.snapshot snapshot) →
      snapshot.Genuine pipeline (submittedTexts (requests.take i))) ∧
    (replies.filterMap LiveReply.shown?).Pairwise (· ≤ ·) ∧
    (∀ i n, requests[i]? = some (.wait n) → Alive (requests.take i) →
      n ≤ (submittedTexts (requests.take i)).length →
      ∃ snapshot, replies[i]? = some (LiveReply.snapshot snapshot) ∧ n ≤ snapshot.revision) ∧
    (∀ i, requests[i]? = some .poll → Alive (requests.take i) →
      let told := (publishedAfter pipeline (requests.take i)).revision
      replies[i]? = some (LiveReply.polled (decide (lastPolled (replies.take i) < told)) told)) ∧
    (∀ i, requests[i]? = some .kill →
      publishedAfter pipeline requests = publishedAfter pipeline (requests.take i)) ∧
    (∀ i, requests[i]? = some .shutdown → Alive (requests.take i) →
      publishedAfter pipeline requests =
        .ofTexts pipeline (submittedTexts (requests.take i))) ∧
    (∀ i, requests[i]? = some LiveRequest.latest →
      replies[i]? = some (LiveReply.snapshot (publishedAfter pipeline (requests.take i)))) := by
  have htracks (i : Nat) := tracks_run pipeline (requests.take i)
  have hreply {i : Nat} {request : LiveRequest} (h : requests[i]? = some request) :
      ((start pipeline).run requests).1[i]? =
        some (((start pipeline).run (requests.take i)).2.step request).1 := by
    rw [run_getElem?, h, Option.map_some]
  refine ⟨length_run _ _, ?_, ?_, (reports_run pipeline requests).increasing, ?_, ?_, ?_, ?_, ?_⟩
  · intro i text hrequest hopen
    rw [hreply hrequest, (htracks i).reply_submit hopen text]
  · intro i snapshot hsnapshot
    rw [run_getElem?] at hsnapshot
    obtain ⟨request, -, hstep⟩ := Option.map_eq_some_iff.mp hsnapshot
    have hshows := shows_step ((start pipeline).run (requests.take i)).2 request
    rw [hstep] at hshows
    rw [show snapshot = _ from hshows]
    exact (htracks i).genuine_step request
  · intro i n hrequest halive hn
    obtain ⟨snapshot, hstep, hle⟩ := (htracks i).reply_wait halive hn
    exact ⟨snapshot, by rw [hreply hrequest, hstep], hle⟩
  · intro i hrequest halive
    have hsaw := (reports_run pipeline (requests.take i)).saw
    rw [run_take] at hsaw
    rw [hreply hrequest, hsaw.reply_poll ((htracks i).running.mpr halive)]
    rfl
  · intro i hrequest
    have hdead : ¬ Alive (requests.take i ++ [.kill]) := by simp [alive_concat]
    rw [publishedAfter, run_split _ hrequest,
      latest_run_of_dead ((htracks i).step .kill) hdead]
    rfl
  · intro i hrequest halive
    have hdead : ¬ Alive (requests.take i ++ [.shutdown]) := by simp [alive_concat]
    rw [publishedAfter, run_split _ hrequest,
      latest_run_of_dead ((htracks i).step .shutdown) hdead]
    exact (htracks i).latest_shutdown halive
  · intro i hrequest
    rw [hreply hrequest]
    rfl

-- a text that is submitted to a dead worker has a revision, but is never shown
example : ((start {}).run [.submit "a", .wait 1, .kill, .submit "b", .wait 2, .latest]).1.filterMap
    LiveReply.shown? = [1, 1] := by rfl

end LiveSession

end MarkView
