import MarkView.Config.Load
/-!
# Where settings come from

A setting is what the command line says, else what the configuration file says, else the usual
value, and a configuration is loaded only if a row of checks passes. `load_decides` says so of
every load: when it succeeds, what it then gives, and which error it gives otherwise.

Each check is a definition of its own (`missing?`, `unreadable?`, `malformed?`, `overlong?`), which
does not know of those before it and tells the error that it fails with. `load_eq_answer` is the
equation that the three parts of the result are read off: a load answers with the first of these
errors, or with the settings merged from their sources.
-/

namespace MarkView.Config

/-! ## Answers -/

section Answer

variable {ε α β : Type} {fault later : Option ε} {result : α}

/-- A result, unless there is a fault. -/
def answer (fault : Option ε) (result : α) : Except ε α :=
  match fault with
  | none => .ok result
  | some fault => .error fault

/-- **The first of two faults is answered with.** -/
theorem answer_bind {next : α → Except ε β} {final : β} (h : next result = answer later final) :
    (answer fault result >>= next) = answer (fault <|> later) final := by
  cases fault with
  | none => exact h
  | some fault => rfl

theorem answer_eq_ok_iff {other : α} :
    answer fault result = .ok other ↔ fault = none ∧ result = other := by
  cases fault <;> simp [answer]

theorem answer_eq_error_iff {error : ε} : answer fault result = .error error ↔ fault = some error := by
  cases fault <;> simp [answer]

end Answer

/-! ## The chosen file -/

/-- A configuration file: the path that it goes by, and what reading it gives. -/
structure Source where
  path : String
  content : Except FileError String

namespace Source

/-- The error of a file that cannot be read as a text. -/
def unreadable? (file : Source) : Option ConfigError :=
  match file.content with
  | .error cause => some (.io cause)
  | .ok _ => none

variable (readSettings : String → Except Toml.Fault Overrides)

/-- The error of a text that sets nothing. -/
def malformed? (file : Source) : Option ConfigError :=
  match file.content with
  | .error _ => none
  | .ok text =>
    match readSettings text with
    | .error fault => some (.parse fault)
    | .ok _ => none

/-- What a file sets. A file without settings leaves all of them open. -/
def sets (file : Source) : Overrides :=
  match file.content with
  | .error _ => {}
  | .ok text =>
    match readSettings text with
    | .error _ => {}
    | .ok overrides => overrides

/-- A file passes its checks if its text can be read, and settings in it. -/
theorem checks_eq_none_iff {file : Source} :
    file.unreadable? = none ∧ file.malformed? readSettings = none ↔
      ∃ text overrides, file.content = .ok text ∧ readSettings text = .ok overrides := by
  obtain ⟨path, content⟩ := file
  cases content with
  | error cause => simp [unreadable?]
  | ok text => cases h : readSettings text <;> simp [unreadable?, malformed?, h]

end Source

/-- The file that a configuration is taken from: the one that is given, else the one that is
discovered from a directory. -/
def chosen? (files : FileTable) (here : Location) (explicit : Option String) : Option Source :=
  match explicit with
  | some path => some ⟨path, files.read here path⟩
  | none =>
    (discover (fun place => (files.find? place).isSome) here).map fun place =>
      ⟨place.text, files.textAt place⟩

/-- The error of a path that is given and leads nowhere. -/
def missing? (files : FileTable) (here : Location) (explicit : Option String) :
    Option ConfigError :=
  explicit.bind fun path => if files.leads here path then none else some (.notFound path)

/-- The error of a time that is too long to gather changes for. -/
def overlong? (debounce : Nat) : Option ConfigError :=
  if debounce ≤ maxDebounce then none else some (.validation .longDebounce)

/-- The settings that come from the command line where it says something, else from a file. -/
def merged (given file : Overrides) : Settings where
  gfm := (given.gfm <|> file.gfm).getD true
  view := (given.view <|> file.view).getD .preview
  debounce := (given.debounce <|> file.debounce).getD 100

/-! ## The checks of a load -/

section Load

variable (readSettings : String → Except Toml.Fault Overrides) (files : FileTable)
  (here : Location) (explicit : Option String) (overrides : Option Overrides)

/-- What the chosen file sets, if there is one. -/
def fileSets : Overrides := ((chosen? files here explicit).map (·.sets readSettings)).getD {}

/-- The error of the first check of the files that fails. -/
def fileFault? : Option ConfigError :=
  missing? files here explicit <|> (chosen? files here explicit).bind (·.unreadable?) <|>
    (chosen? files here explicit).bind (·.malformed? readSettings) <|>
    overlong? (merged {} (fileSets readSettings files here explicit)).debounce

/-- The error that the overrides lead to. -/
def overrideFault? : Option ConfigError :=
  overrides.bind fun given =>
    overlong? (merged given (fileSets readSettings files here explicit)).debounce

theorem apply_eq_merged (file : Overrides) : Settings.apply {} file = merged {} file := rfl

/-- Overrides are applied to what a file sets. -/
theorem merged_apply (given file : Overrides) :
    (merged {} file).apply given = merged given file := by
  obtain ⟨gfm, view, debounce⟩ := given
  cases gfm <;> cases view <;> cases debounce <;> rfl

/-- Settings are checked for the time that they set. -/
theorem validate_bind {α : Type} (settings : Settings) (result : α) :
    (do settings.validate; return result) = answer (overlong? settings.debounce) result := by
  unfold Settings.validate overlong?
  by_cases h : settings.debounce ≤ maxDebounce
  · rw [if_neg (Nat.not_lt.mpr h), if_pos h]
    rfl
  · rw [if_pos (Nat.lt_of_not_le h), if_neg h]
    rfl

/-- A file is checked for a text, for settings in it, and for the time that they set. -/
theorem ofFile_eq_answer (file : Source) :
    ofFile readSettings file.path file.content =
      answer (file.unreadable? <|> file.malformed? readSettings <|>
          overlong? (merged {} (file.sets readSettings)).debounce)
        ⟨merged {} (file.sets readSettings), some file.path⟩ := by
  obtain ⟨path, content⟩ := file
  cases content with
  | error cause => rfl
  | ok text =>
    cases hsettings : readSettings text with
    | error fault => simp [ofFile, Source.unreadable?, Source.malformed?, hsettings, answer]
    | ok overrides =>
      simp only [ofFile, hsettings, apply_eq_merged, validate_bind]
      simp [Source.unreadable?, Source.malformed?, Source.sets, hsettings]

variable {readSettings files here explicit overrides}

/-- The files are checked one after the other. -/
theorem ofFiles_eq_answer :
    ofFiles readSettings files here explicit =
      answer (fileFault? readSettings files here explicit)
        ⟨merged {} (fileSets readSettings files here explicit),
          (chosen? files here explicit).map (·.path)⟩ := by
  cases explicit with
  | some path =>
    by_cases hleads : files.leads here path = true
    · have hfile := ofFile_eq_answer readSettings ⟨path, files.read here path⟩
      simp only [ofFiles, if_pos hleads, hfile]
      simp [fileFault?, fileSets, chosen?, missing?, hleads]
    · simp [ofFiles, fileFault?, missing?, hleads, answer]
  | none =>
    cases hplace : discover (fun place => (files.find? place).isSome) here with
    | some place =>
      have hfile := ofFile_eq_answer readSettings ⟨place.text, files.textAt place⟩
      simp only [ofFiles, hplace, hfile]
      simp [fileFault?, fileSets, chosen?, missing?, hplace]
    | none =>
      simp only [ofFiles, hplace, fileFault?, fileSets, chosen?, missing?]
      rfl

/-- **A load answers with the first check that fails**, or with the merged settings. -/
theorem load_eq_answer :
    load readSettings files here explicit overrides =
      answer (fileFault? readSettings files here explicit <|>
          overrideFault? readSettings files here explicit overrides)
        ⟨merged (overrides.getD {}) (fileSets readSettings files here explicit),
          (chosen? files here explicit).map (·.path)⟩ := by
  rw [load, ofFiles_eq_answer]
  refine answer_bind ?_
  cases overrides with
  | none => rfl
  | some given =>
    simp only [merged_apply, validate_bind]
    rfl

theorem missing?_eq_none_iff :
    missing? files here explicit = none ↔
      ∀ path, explicit = some path → files.leads here path = true := by
  cases explicit <;> simp [missing?]

theorem overlong?_eq_none_iff {debounce : Nat} : overlong? debounce = none ↔ debounce ≤ 10000 := by
  unfold overlong?
  split
  · next h => simpa [maxDebounce] using h
  · next h => simpa [maxDebounce] using h

/-- The files pass if the path that is given leads somewhere, the chosen file has a text with
settings, and the time that is set by then is not too long. -/
theorem fileFault?_eq_none_iff :
    fileFault? readSettings files here explicit = none ↔
      (∀ path, explicit = some path → files.leads here path = true) ∧
      (∀ file, chosen? files here explicit = some file →
        ∃ text overrides, file.content = .ok text ∧ readSettings text = .ok overrides) ∧
      (fileSets readSettings files here explicit).debounce.getD 100 ≤ 10000 := by
  have hfile : (chosen? files here explicit).bind (·.unreadable?) = none ∧
      (chosen? files here explicit).bind (·.malformed? readSettings) = none ↔
        ∀ file, chosen? files here explicit = some file →
          ∃ text overrides, file.content = .ok text ∧ readSettings text = .ok overrides := by
    cases chosen? files here explicit with
    | none => simp
    | some file => simpa using file.checks_eq_none_iff readSettings
  rw [← hfile, ← missing?_eq_none_iff, and_assoc]
  simp [fileFault?, overlong?_eq_none_iff, merged]

theorem overrideFault?_eq_none_iff :
    overrideFault? readSettings files here explicit overrides = none ↔
      ∀ given, overrides = some given →
        (given.debounce <|> (fileSets readSettings files here explicit).debounce).getD 100 ≤
          10000 := by
  cases overrides <;> simp [overrideFault?, overlong?_eq_none_iff, merged]

end Load

/-- **Loading a configuration.** A load succeeds just when the path that is given, if any, leads
somewhere, the chosen file, if any, has a text with settings in it, and the time to gather changes
for is at most 10000, as the file sets it and, if there are overrides, after these as well. Each
setting is then what the overrides say, else what the file says, else the usual one, and the path
that is kept is that of the chosen file. A load that does not succeed tells the error of the first
of these checks that fails. -/
theorem load_decides (readSettings : String → Except Toml.Fault Overrides) (files : FileTable)
    (here : Location) (explicit : Option String) (overrides : Option Overrides) :
    let loaded := load readSettings files here explicit overrides
    let chosen := chosen? files here explicit
    let byCommand := overrides.getD {}
    let byFile := fileSets readSettings files here explicit
    ((∃ config, loaded = .ok config) ↔
      (∀ path, explicit = some path → files.leads here path = true) ∧
      (∀ file, chosen = some file →
        ∃ text settings, file.content = .ok text ∧ readSettings text = .ok settings) ∧
      byFile.debounce.getD 100 ≤ 10000 ∧
      (∀ given, overrides = some given →
        (given.debounce <|> byFile.debounce).getD 100 ≤ 10000)) ∧
    (∀ config, loaded = .ok config →
      config.settings.gfm = (byCommand.gfm <|> byFile.gfm).getD true ∧
      config.settings.view = (byCommand.view <|> byFile.view).getD .preview ∧
      config.settings.debounce = (byCommand.debounce <|> byFile.debounce).getD 100 ∧
      config.source = chosen.map (·.path)) ∧
    (∀ error, loaded = .error error ↔
      (missing? files here explicit <|>
        chosen.bind (·.unreadable?) <|>
        chosen.bind (·.malformed? readSettings) <|>
        overlong? (byFile.debounce.getD 100) <|>
        overrides.bind fun given =>
          overlong? ((given.debounce <|> byFile.debounce).getD 100)) = some error) := by
  refine ⟨?_, ?_, ?_⟩
  · simp only [load_eq_answer, answer_eq_ok_iff]
    simp [fileFault?_eq_none_iff, overrideFault?_eq_none_iff, and_assoc]
  · intro config hconfig
    rw [load_eq_answer, answer_eq_ok_iff] at hconfig
    obtain ⟨-, rfl⟩ := hconfig
    exact ⟨rfl, rfl, rfl, rfl⟩
  · intro error
    rw [load_eq_answer, answer_eq_error_iff, fileFault?, overrideFault?]
    simp only [merged, Option.orElse_eq_orElse, Option.orElse_eq_or, Option.or_assoc,
      Option.none_or]

/-- An override that would be short enough does not hide that the file sets too long a time. -/
example : load (fun _ => .ok { debounce := some 10001 }) ⟨[(["mdstyle.toml"], .file ⟨#[]⟩)]⟩
    ["home"] none (some { debounce := some 50 }) = .error (.validation .longDebounce) := by
  rfl

end MarkView.Config
