import MarkView.Proofs.Preview.Watching
/-!
# A debouncer in use

Changes of a file are recorded and looked for in any order. The changes recorded since one was last
found are a burst, and all that a debouncer holds can be read off the burst (`debouncer_run`): the
kind that its changes are folded into, and the end of the window after the last of them.

Two results follow. What waits tells whether the file is there (`presence_decides`): a file that
appeared in a burst is read again, and one that vanished at its end is not. And a burst is delivered
once, as soon as its window has passed, and not before (`delivered_exactly`). Only for the latter do
the times of the calls have to be in order.
-/

namespace MarkView

/-! ## What changes say of a file -/

/-- A file is there after some changes of it: it was not removed since it was created last, or it
was only modified. -/
def IsThere (kinds : List ChangeKind) : Prop :=
  (kinds.filter (· ≠ .modified)).getLast? = some .created ∨
    kinds ≠ [] ∧ ∀ kind ∈ kinds, kind = .modified

instance (kinds : List ChangeKind) : Decidable (IsThere kinds) :=
  inferInstanceAs (Decidable (_ ∨ _))

section IsThere

variable {kinds : List ChangeKind} {kind : ChangeKind}

/-- A file that is created is there, one that is removed is not, and a modification leaves that as
it was. A file of which nothing else is known was there to be modified. -/
theorem isThere_concat : IsThere (kinds ++ [kind]) ↔
    kind = .created ∨ kind = .modified ∧ (kinds = [] ∨ IsThere kinds) := by
  unfold IsThere
  rw [List.filter_append, List.forall_mem_append, List.forall_mem_singleton]
  cases kind with
  | created => simp
  | removed => simp
  | modified => by_cases hnil : kinds = [] <;> simp [hnil]

/-- **Changes that a file is there after are not folded into its removal.** -/
theorem gather_of_isThere (h : IsThere kinds) :
    gather kinds = some .created ∨ gather kinds = some .modified := by
  induction kinds using List.reverseRecOn with
  | nil => simp [IsThere] at h
  | append_singleton kinds kind ih =>
    rw [gather_concat]
    rcases isThere_concat.mp h with rfl | ⟨rfl, rfl | hthere⟩
    · rcases gather kinds with _ | (_ | _ | _) <;> simp [Debouncer.foldIn, ChangeKind.merge?]
    · exact .inr rfl
    · rcases ih hthere with hkind | hkind
      · exact .inl (by rw [hkind]; rfl)
      · exact .inr (by rw [hkind]; rfl)

/-- The converse fails: a creation and the removal after it leave nothing, so a modification that
is told too late counts by itself. -/
example : gather [.created, .removed, .modified] = some .modified ∧
    ¬ IsThere [.created, .removed, .modified] := by decide

/-- Changes that end with a removal are folded into it, or into nothing. -/
theorem gather_of_getLast?_removed (h : kinds.getLast? = some .removed) :
    gather kinds = none ∨ gather kinds = some .removed := by
  obtain ⟨earlier, rfl⟩ := List.getLast?_eq_some_iff.mp h
  rw [gather_concat]
  rcases gather earlier with _ | (_ | _ | _) <;> simp [Debouncer.foldIn, ChangeKind.merge?]

end IsThere

/-! ## Calls -/

/-- A change, with the time at which it was recorded. -/
structure TimedChange where
  time : Nat
  kind : ChangeKind
  deriving DecidableEq, Repr, Inhabited

/-- A use of a debouncer: a change is recorded, or what is ready is taken. -/
inductive DebounceCall
  | record (change : TimedChange)
  | take (now : Nat)
  deriving DecidableEq, Repr, Inhabited

namespace DebounceCall

/-- The time of a call. -/
def time : DebounceCall → Nat
  | .record change => change.time
  | .take now => now

/-- The change that a call records. -/
def change? : DebounceCall → Option TimedChange
  | .record change => some change
  | .take _ => none

end DebounceCall

namespace Debouncer

/-- What waits once some changes are recorded and none is taken. -/
def pendingOf (window : Nat) (burst : List TimedChange) : Option PendingChange :=
  burst.getLast?.bind fun last =>
    (gather (burst.map (·.kind))).map fun kind => ⟨kind, last.time + window⟩

variable {window now : Nat} {burst : List TimedChange}

theorem pendingOf_kind :
    (pendingOf window burst).map (·.kind) = gather (burst.map (·.kind)) := by
  unfold pendingOf
  cases hlast : burst.getLast? with
  | none =>
    rw [List.getLast?_eq_none_iff.mp hlast]
    rfl
  | some last => simp [Function.comp_def]

/-- **One more change is the last one of its burst.** -/
theorem record_pendingOf (change : TimedChange) :
    record ⟨window, pendingOf window burst⟩ change.time change.kind =
      ⟨window, pendingOf window (burst ++ [change])⟩ := by
  rw [record, pendingOf_kind]
  simp [pendingOf]

/-- **A take finds what a burst is folded into**, once the window after its last change passed. -/
theorem takeReady_pendingOf {kind : ChangeKind} :
    (takeReady ⟨window, pendingOf window burst⟩ now).1 = some kind ↔
      gather (burst.map (·.kind)) = some kind ∧
        ∃ last, burst.getLast? = some last ∧ last.time + window ≤ now := by
  rw [takeReady_eq_some_iff]
  cases hlast : burst.getLast? with
  | none => simp [pendingOf, hlast]
  | some last => simp [pendingOf, hlast]

end Debouncer

/-! ## Runs -/

/-- What a take found: when, of which kind, and the changes that it stands for. -/
structure Delivery where
  time : Nat
  kind : ChangeKind
  burst : List TimedChange
  deriving DecidableEq, Repr, Inhabited

/-- A debouncer with the changes recorded since a take last found something, and all that takes
have found. -/
structure Debouncing where
  debouncer : Debouncer
  burst : List TimedChange := []
  deliveries : List Delivery := []

namespace Debouncing

/-- The kinds of the changes since a take last found something. -/
def kinds (d : Debouncing) : List ChangeKind := d.burst.map (·.kind)

/-- What a take at a time finds. -/
def taken (d : Debouncing) (now : Nat) : Option ChangeKind := (d.debouncer.takeReady now).1

/-- One call. -/
def step (d : Debouncing) : DebounceCall → Debouncing
  | .record change =>
    { d with
      debouncer := d.debouncer.record change.time change.kind
      burst := d.burst ++ [change] }
  | .take now =>
    match d.debouncer.takeReady now with
    | (none, debouncer) => { d with debouncer }
    | (some kind, debouncer) =>
      { debouncer, burst := [], deliveries := d.deliveries ++ [⟨now, kind, d.burst⟩] }

/-- A debouncer after some calls. -/
def run (window : Nat) (calls : List DebounceCall) : Debouncing :=
  calls.foldl step { debouncer := { window } }

variable {d : Debouncing} {window now : Nat} {calls : List DebounceCall} {kind : ChangeKind}

theorem run_concat (call : DebounceCall) :
    run window (calls ++ [call]) = (run window calls).step call := by
  simp [run]

theorem step_take_of_none (h : d.taken now = none) : d.step (.take now) = d := by
  rw [step, Debouncer.takeReady_of_none h]

theorem step_take_of_some (h : d.taken now = some kind) :
    d.step (.take now) =
      ⟨{ d.debouncer with pending := none }, [], d.deliveries ++ [⟨now, kind, d.burst⟩]⟩ := by
  rw [step, Debouncer.takeReady_of_some h]

/-- **What waits can be read off the burst**, after any calls. -/
theorem debouncer_run (window : Nat) (calls : List DebounceCall) :
    (run window calls).debouncer = ⟨window, Debouncer.pendingOf window (run window calls).burst⟩ := by
  induction calls using List.reverseRecOn with
  | nil => rfl
  | append_singleton calls call ih =>
    rw [run_concat]
    cases call with
    | record change => rw [step, ih, Debouncer.record_pendingOf]
    | take now =>
      cases htaken : (run window calls).taken now with
      | none => rw [step_take_of_none htaken, ih]
      | some kind =>
        rw [step_take_of_some htaken, ih]
        rfl

/-- What waits is what the changes since the last find are folded into. -/
theorem pending_kind_run (window : Nat) (calls : List DebounceCall) :
    (run window calls).debouncer.pending.map (·.kind) = gather (run window calls).kinds := by
  rw [debouncer_run]
  exact Debouncer.pendingOf_kind

/-- **When a take finds something, and what.** -/
theorem taken_run : (run window calls).taken now = some kind ↔
    gather (run window calls).kinds = some kind ∧
      ∃ last, (run window calls).burst.getLast? = some last ∧ last.time + window ≤ now := by
  rw [taken, debouncer_run]
  exact Debouncer.takeReady_pendingOf

/-- **Each change is in one burst**, in the order in which they were recorded. -/
theorem flatMap_deliveries_run (window : Nat) (calls : List DebounceCall) :
    (run window calls).deliveries.flatMap (·.burst) ++ (run window calls).burst =
      calls.filterMap DebounceCall.change? := by
  induction calls using List.reverseRecOn with
  | nil => rfl
  | append_singleton calls call ih =>
    rw [run_concat, List.filterMap_append, ← ih]
    cases call with
    | record change => simp [step, DebounceCall.change?]
    | take now =>
      cases htaken : (run window calls).taken now with
      | none => simp [step_take_of_none htaken, DebounceCall.change?]
      | some kind => simp [step_take_of_some htaken, DebounceCall.change?]

/-- Changes are recorded in the order of their times, if calls are made in the order of theirs. -/
theorem pairwise_recorded (hordered : (calls.map DebounceCall.time).Pairwise (· ≤ ·)) :
    (calls.filterMap DebounceCall.change?).Pairwise (·.time ≤ ·.time) := by
  refine (List.pairwise_map.mp hordered).filterMap _ ?_
  intro call later hle change hchange next hnext
  cases call with
  | take now => cases hchange
  | record =>
    cases later with
    | take now => cases hnext
    | record =>
      obtain rfl := Option.some.inj hchange
      obtain rfl := Option.some.inj hnext
      exact hle

/-- No change is recorded after the last one of a burst that is not yet found. -/
theorem time_le_last {change last : TimedChange}
    (hordered : (calls.map DebounceCall.time).Pairwise (· ≤ ·))
    (hlast : (run window calls).burst.getLast? = some last) (hchange : .record change ∈ calls) :
    change.time ≤ last.time := by
  have hrecorded : change ∈ calls.filterMap DebounceCall.change? :=
    List.mem_filterMap.mpr ⟨_, hchange, rfl⟩
  have hpairwise := pairwise_recorded hordered
  obtain ⟨earlier, hburst⟩ := List.getLast?_eq_some_iff.mp hlast
  rw [← flatMap_deliveries_run window, hburst, ← List.append_assoc] at hrecorded hpairwise
  rw [List.mem_append, List.mem_singleton] at hrecorded
  rcases hrecorded with hearlier | rfl
  · exact (List.pairwise_append.mp hpairwise).2.2 _ hearlier _ (List.mem_singleton_self _)
  · exact Nat.le_refl _

/-- Takes that come before the window has passed change nothing. -/
theorem run_append_of_early {last : TimedChange} {waits : List DebounceCall}
    (hlast : (run window calls).burst.getLast? = some last)
    (hearly : ∀ call ∈ waits, ∃ now, call = .take now ∧ now < last.time + window) :
    run window (calls ++ waits) = run window calls := by
  induction waits using List.reverseRecOn with
  | nil => rw [List.append_nil]
  | append_singleton waits call ih =>
    rw [List.forall_mem_append, List.forall_mem_singleton] at hearly
    obtain ⟨hbefore, now, rfl, hnow⟩ := hearly
    have hnone : (run window calls).taken now = none := by
      rw [Option.eq_none_iff_forall_ne_some]
      intro kind hkind
      obtain ⟨-, other, hother, hpassed⟩ := taken_run.mp hkind
      obtain rfl := Option.some.inj (hlast.symm.trans hother)
      omega
    rw [← List.append_assoc, run_concat, ih hbefore, step_take_of_none hnone]

/-- A take that finds something leaves a debouncer that holds nothing. -/
theorem run_take_of_some (h : (run window calls).taken now = some kind) :
    run window (calls ++ [.take now]) =
      ⟨{ window }, [], (run window calls).deliveries ++ [⟨now, kind, (run window calls).burst⟩]⟩ := by
  rw [run_concat, step_take_of_some h, debouncer_run]

/-! ## What is found -/

/-- **What waits tells whether the file is there**, after any calls. If it is there after the
changes recorded since a take last found something, they are folded into a creation or a
modification, which is what a take finds once the window after the last of them has passed, and for
which the file is read again. If the last of them is a removal, they are folded into that or into
nothing, and no take finds anything else. -/
theorem presence_decides (window : Nat) (calls : List DebounceCall) :
    let d := run window calls
    let waiting := d.debouncer.pending.map (·.kind)
    (IsThere d.kinds →
      (waiting = some .created ∨ waiting = some .modified) ∧
      ∀ now, (∀ last ∈ d.burst.getLast?, last.time + window ≤ now) →
        d.taken now = some .created ∨ d.taken now = some .modified) ∧
    (d.kinds.getLast? = some .removed →
      (waiting = none ∨ waiting = some .removed) ∧
      ∀ now, d.taken now = none ∨ d.taken now = some .removed) := by
  intro d waiting
  have hwaiting : waiting = gather d.kinds := pending_kind_run window calls
  rw [hwaiting]
  constructor
  · intro hthere
    have hkind := gather_of_isThere hthere
    refine ⟨hkind, fun now hpassed => ?_⟩
    -- an empty burst would be folded into nothing
    have hsome : d.burst ≠ [] := by
      intro hnil
      rw [kinds, hnil] at hkind
      simp [gather] at hkind
    have hlast := List.getLast?_eq_some_getLast hsome
    have hfind {kind : ChangeKind} (h : gather d.kinds = some kind) : d.taken now = some kind :=
      taken_run.mpr ⟨h, _, hlast, hpassed _ hlast⟩
    exact hkind.imp hfind hfind
  · intro hremoved
    have hkind := gather_of_getLast?_removed hremoved
    refine ⟨hkind, fun now => ?_⟩
    cases htaken : d.taken now with
    | none => exact .inl rfl
    | some kind =>
      obtain ⟨hgather, -⟩ := taken_run.mp htaken
      rw [hgather] at hkind
      exact .inr (hkind.resolve_left (by simp))

/-- **Bursts are delivered once, and on time.** Let calls be made in the order of their times.
A take finds something just when the changes recorded since the last find are folded into something
and the window has passed since the last of them. It finds what they are folded into and leaves a
debouncer that holds nothing, and no change at all was recorded within the window before it. A burst
that is folded into something is found by the first take after its window, if nothing else is
recorded before that. The bursts that were found and what is left, one after the other, are the
changes that were recorded. -/
theorem delivered_exactly (window : Nat) {calls : List DebounceCall}
    (hordered : (calls.map DebounceCall.time).Pairwise (· ≤ ·)) :
    (∀ before now after, calls = before ++ .take now :: after →
      let d := run window before
      (∀ kind, d.taken now = some kind ↔ gather d.kinds = some kind ∧
        ∃ last, d.burst.getLast? = some last ∧ last.time + window ≤ now) ∧
      ∀ kind, d.taken now = some kind →
        run window (before ++ [.take now]) =
          ⟨{ window }, [], d.deliveries ++ [⟨now, kind, d.burst⟩]⟩ ∧
        ∀ change, .record change ∈ before → change.time + window ≤ now) ∧
    (∀ before waits now after kind last, calls = before ++ waits ++ .take now :: after →
      let d := run window before
      gather d.kinds = some kind → d.burst.getLast? = some last →
      (∀ call ∈ waits, ∃ early, call = .take early ∧ early < last.time + window) →
      last.time + window ≤ now →
      run window (before ++ waits ++ [.take now]) =
        ⟨{ window }, [], d.deliveries ++ [⟨now, kind, d.burst⟩]⟩) ∧
    (run window calls).deliveries.flatMap (·.burst) ++ (run window calls).burst =
      calls.filterMap DebounceCall.change? := by
  refine ⟨?_, ?_, flatMap_deliveries_run window calls⟩
  · intro before now after hcalls d
    refine ⟨fun kind => taken_run, fun kind hkind => ⟨run_take_of_some hkind, ?_⟩⟩
    intro change hchange
    obtain ⟨-, last, hlast, hpassed⟩ := taken_run.mp hkind
    have hbefore : (before.map DebounceCall.time).Pairwise (· ≤ ·) := by
      rw [hcalls, List.map_append] at hordered
      exact (List.pairwise_append.mp hordered).1
    have hle := time_le_last hbefore hlast hchange
    omega
  · intro before waits now after kind last _ d hkind hlast hearly hpassed
    have hsame : run window (before ++ waits) = d := run_append_of_early hlast hearly
    have htaken : (run window (before ++ waits)).taken now = some kind := by
      rw [taken_run, hsame]
      exact ⟨hkind, last, hlast, hpassed⟩
    rw [run_take_of_some htaken, hsame]

/-- A file is saved by moving another over it, slowly, and then a backup of it comes and goes. -/
def slowSave : List DebounceCall :=
  [.record ⟨0, .modified⟩, .take 2, .record ⟨2, .removed⟩, .record ⟨4, .created⟩, .take 6, .take 7,
    .record ⟨7, .created⟩, .record ⟨8, .removed⟩, .take 20]

theorem delivered_exactly_slowSave : (slowSave.map DebounceCall.time).Pairwise (· ≤ ·) ∧
    run 3 (slowSave.take 6) =
      ⟨{ window := 3 }, [],
        [⟨7, .modified, [⟨0, .modified⟩, ⟨2, .removed⟩, ⟨4, .created⟩]⟩]⟩ := by
  have hordered : (slowSave.map DebounceCall.time).Pairwise (· ≤ ·) := by decide
  obtain ⟨-, hprompt, -⟩ := delivered_exactly 3 hordered
  refine ⟨hordered, ?_⟩
  exact hprompt (slowSave.take 4) [.take 6] 7 (slowSave.drop 6) .modified ⟨4, .created⟩ rfl rfl rfl
    (by simp) (by decide)

end Debouncing

end MarkView
