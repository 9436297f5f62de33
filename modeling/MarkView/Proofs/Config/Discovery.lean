import MarkView.Config.Load
/-!
# Which configuration file is found

Without a path that is given, the configuration file is looked for in the working directory and in
those above it, up to the root. `discover_eq` writes this search down without a recursion: it goes
through the numbers of levels to go up, from none on, and stops at the first level where there is an
entry of the right name. That the nearest file is found, that none is missed, and that nothing else
matters is read off this equation (`discover_nearest`).
-/

namespace MarkView.Config

/-- Where a configuration file stands, so many levels above a directory. The root has no level
above it. -/
def placeAbove (start : Location) (levels : Nat) : Location := fileName :: start.drop levels

section Discover

variable {present other : Location → Bool} {start place : Location}

/-- **A search tries one level after the other**, from the directory itself up to the root. -/
theorem discover_eq (present : Location → Bool) (start : Location) :
    discover present start =
      ((List.range (start.length + 1)).find? fun levels => present (placeAbove start levels)).map
        (placeAbove start) := by
  induction start with
  | nil =>
    rw [discover]
    by_cases hpresent : present [fileName] = true <;> simp [placeAbove, hpresent]
  | cons name above ih =>
    rw [discover, List.length_cons, List.range_succ_eq_map, List.find?_cons]
    by_cases hpresent : present (fileName :: name :: above) = true
    · have hhere : present (placeAbove (name :: above) 0) = true := hpresent
      rw [if_pos hpresent, hhere]
      rfl
    · have hhere : present (placeAbove (name :: above) 0) = false := eq_false_of_ne_true hpresent
      rw [if_neg hpresent, hhere, List.find?_map, Option.map_map, ih]
      rfl

/-- What is found stands at the first level at which there is something. -/
theorem discover_eq_some_iff :
    discover present start = some place ↔
      ∃ levels ≤ start.length, place = placeAbove start levels ∧ present place = true ∧
        ∀ fewer < levels, present (placeAbove start fewer) = false := by
  rw [discover_eq, Option.map_eq_some_iff]
  constructor
  · rintro ⟨levels, hfound, rfl⟩
    obtain ⟨hpresent, hlevels, hnearer⟩ := List.find?_range_eq_some.mp hfound
    refine ⟨levels, Nat.le_of_lt_succ (List.mem_range.mp hlevels), rfl, hpresent, ?_⟩
    exact fun fewer hfewer => by simpa using hnearer fewer hfewer
  · rintro ⟨levels, hlevels, rfl, hpresent, hnearer⟩
    refine ⟨levels, List.find?_range_eq_some.mpr ⟨hpresent, ?_, ?_⟩, rfl⟩
    · exact List.mem_range.mpr (Nat.lt_succ_of_le hlevels)
    · exact fun fewer hfewer => by simpa using hnearer fewer hfewer

/-- Nothing is found only if there is nothing at any level. -/
theorem discover_eq_none_iff :
    discover present start = none ↔
      ∀ levels ≤ start.length, present (placeAbove start levels) = false := by
  rw [discover_eq, Option.map_eq_none_iff, List.find?_range_eq_none]
  simp only [Nat.lt_succ_iff, Bool.not_eq_true']

/-- **What is found depends on the levels alone.** -/
theorem discover_congr
    (h : ∀ levels ≤ start.length,
      other (placeAbove start levels) = present (placeAbove start levels)) :
    discover other start = discover present start := by
  refine Option.ext fun place => ?_
  rw [discover_eq_some_iff, discover_eq_some_iff]
  refine exists_congr fun levels => and_congr_right fun hlevels => and_congr_right ?_
  rintro rfl
  rw [h levels hlevels]
  refine and_congr_right fun _ => forall₂_congr fun fewer hfewer => ?_
  rw [h fewer (Nat.le_trans (Nat.le_of_lt hfewer) hlevels)]

end Discover

/-- **The nearest file is found.** Whatever stands at the places of a file tree, a search from a
directory finds just the entry named `mdstyle.toml`, be it a file or a directory, that is the fewest
levels above, and by the path of the directory that holds it. It finds nothing just when there is no
such entry from the directory itself up to the root. What stands anywhere else does not matter. -/
theorem discover_nearest (entryAt : Location → Option Entry) (start : Location) :
    let found := discover (fun place => (entryAt place).isSome) start
    (∀ place, found = some place ↔
      ∃ levels ≤ start.length, ∃ entry,
        place = fileName :: start.drop levels ∧
        place.text = (if start.drop levels = [] then "" else Location.text (start.drop levels)) ++
          "/" ++ "mdstyle.toml" ∧
        entryAt place = some entry ∧
        ∀ fewer < levels, entryAt (fileName :: start.drop fewer) = none) ∧
    (found = none ↔ ∀ levels ≤ start.length, entryAt (fileName :: start.drop levels) = none) ∧
    ∀ other : Location → Option Entry,
      (∀ levels ≤ start.length, (other (fileName :: start.drop levels)).isSome =
        (entryAt (fileName :: start.drop levels)).isSome) →
      discover (fun place => (other place).isSome) start = found := by
  refine ⟨fun place => ?_, ?_, fun other hother => discover_congr hother⟩
  · rw [discover_eq_some_iff]
    constructor
    · rintro ⟨levels, hlevels, rfl, hpresent, hnearer⟩
      obtain ⟨entry, hentry⟩ := Option.isSome_iff_exists.mp hpresent
      refine ⟨levels, hlevels, entry, rfl, Location.text_cons fileName _, hentry, ?_⟩
      exact fun fewer hfewer => Option.isSome_eq_false_iff.mp (hnearer fewer hfewer) |>
        Option.isNone_iff_eq_none.mp
    · rintro ⟨levels, hlevels, entry, rfl, -, hentry, hnearer⟩
      refine ⟨levels, hlevels, rfl, Option.isSome_iff_exists.mpr ⟨entry, hentry⟩, ?_⟩
      intro fewer hfewer
      rw [placeAbove, hnearer fewer hfewer]
      rfl
  · rw [discover_eq_none_iff]
    refine forall_congr' fun levels => forall_congr' fun _ => ?_
    rw [Option.isSome_eq_false_iff, Option.isNone_iff_eq_none]
    rfl

/-- A directory of the name is found too, and hides the file further up. -/
example : discover (fun place => (FileTable.find? ⟨[(["mdstyle.toml"], .file ⟨#[]⟩),
    (["mdstyle.toml", "docs"], .directory)]⟩ place).isSome) ["draft", "docs"] =
      some ["mdstyle.toml", "docs"] := by
  decide

end MarkView.Config
