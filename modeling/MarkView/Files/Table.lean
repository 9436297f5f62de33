import MarkView.Files.Location
/-!
# File tables

A file tree as a table of the entries that stand at its locations, and the two
questions that are asked of it: where a path leads, and what text a file holds.
-/

namespace MarkView

/-- What stands at a location. -/
inductive Entry
  | file (content : ByteArray)
  | directory
  deriving Inhabited

/-- Why a file cannot be reached or read. -/
inductive FileError
  | notFound
  | notDirectory
  | isDirectory
  | nameTooLong
  | zeroByte
  | notText
  deriving DecidableEq, Repr, Inhabited

/-- The wording of an error. -/
def FileError.message : FileError → String
  | .notFound => "No such file or directory (os error 2)"
  | .notDirectory => "Not a directory (os error 20)"
  | .isDirectory => "Is a directory (os error 21)"
  | .nameTooLong => "File name too long (os error 36)"
  | .zeroByte => "file name contained an unexpected NUL byte"
  | .notText => "stream did not contain valid UTF-8"

/-- The entries of a file tree. The root itself is always a directory. -/
structure FileTable where
  entries : List (Location × Entry) := []
  deriving Inhabited

namespace FileTable

/-- The entry at a location. -/
def find? (files : FileTable) : Location → Option Entry
  | [] => some .directory
  | place => files.entries.lookup place

/-- Let an entry stand at a location, in place of what stood there. -/
def put (files : FileTable) (place : Location) (entry : Entry) : FileTable :=
  ⟨(place, entry) :: files.entries⟩

/-- Remove what stands at a location. -/
def erase (files : FileTable) (place : Location) : FileTable :=
  ⟨files.entries.filter fun e => e.1 != place⟩

/-- Make a location a directory, with all the directories above it. What is there
already stays. -/
def addDirectory (files : FileTable) : Location → FileTable
  | [] => files
  | name :: above =>
    let files := files.addDirectory above
    match files.find? (name :: above) with
    | some _ => files
    | none => files.put (name :: above) .directory

/-- Let a file stand at a location, with the directories above it. -/
def addFile (files : FileTable) (place : Location) (content : ByteArray) : FileTable :=
  (files.addDirectory place.tail).put place (.file content)

theorem find?_put_self (files : FileTable) {place : Location} (entry : Entry) (h : place ≠ []) :
    (files.put place entry).find? place = some entry := by
  cases place with
  | nil => exact absurd rfl h
  | cons name above => simp [find?, put]

theorem find?_put_of_ne (files : FileTable) {place other : Location} (entry : Entry)
    (h : other ≠ place) : (files.put place entry).find? other = files.find? other := by
  cases other with
  | nil => rfl
  | cons name above =>
    have hb : ((name :: above) == place) = false := by simpa using h
    simp [find?, put, List.lookup_cons, hb]

theorem lookup_filter_ne (place other : Location) (entries : List (Location × Entry)) :
    (entries.filter fun e => e.1 != place).lookup other =
      if other = place then none else entries.lookup other := by
  induction entries with
  | nil => simp
  | cons e rest ih => grind

theorem find?_erase_self (files : FileTable) {place : Location} (h : place ≠ []) :
    (files.erase place).find? place = none := by
  cases place with
  | nil => exact absurd rfl h
  | cons name above => simp [find?, erase, lookup_filter_ne]

theorem find?_erase_of_ne (files : FileTable) {place other : Location} (h : other ≠ place) :
    (files.erase place).find? other = files.find? other := by
  cases other with
  | nil => rfl
  | cons name above => simp [find?, erase, lookup_filter_ne, h]

/-- The place that one part of a path leads to from a place. Only a directory can be
left or entered, also by a part that stays where it is. -/
def enter (files : FileTable) (here : Location) (part : String) : Except FileError Location :=
  match files.find? here with
  | none => .error .notFound
  | some (.file _) => .error .notDirectory
  | some .directory =>
    if part = "" ∨ part = "." then .ok here
    else if part = ".." then .ok here.tail
    else if 255 < part.utf8ByteSize then .error .nameTooLong
    else
      match files.find? (part :: here) with
      | none => .error .notFound
      | some _ => .ok (part :: here)

/-- The location that a path leads to, from a working directory. -/
def resolve (files : FileTable) (here : Location) (path : String) : Except FileError Location :=
  if path = "" then .error .notFound
  else if path.contains '\x00' then .error .zeroByte
  else if 4096 ≤ path.utf8ByteSize then .error .nameTooLong
  else
    let parts := (path.toList.splitOn '/').map String.ofList
    parts.foldlM files.enter (if path.startsWith "/" then [] else here)

/-- A relative path is followed part by part from where one is. -/
theorem resolve_relative {files : FileTable} {here : Location} {path : String} (hne : path ≠ "")
    (hzero : path.contains '\x00' = false) (hshort : path.utf8ByteSize < 4096)
    (hrelative : path.startsWith "/" = false) :
    files.resolve here path =
      ((path.toList.splitOn '/').map String.ofList).foldlM files.enter here := by
  simp [resolve, hne, hzero, Nat.not_le.mpr hshort, hrelative]

/-- Whether a path leads to an entry. -/
def leads (files : FileTable) (here : Location) (path : String) : Bool :=
  match files.resolve here path with
  | .ok place => (files.find? place).isSome
  | .error _ => false

/-- The text of the file at a location. -/
def textAt (files : FileTable) (place : Location) : Except FileError String :=
  match files.find? place with
  | none => .error .notFound
  | some .directory => .error .isDirectory
  | some (.file content) =>
    match String.fromUTF8? content with
    | some text => .ok text
    | none => .error .notText

/-- The text of the file that a path leads to. -/
def read (files : FileTable) (here : Location) (path : String) : Except FileError String :=
  (files.resolve here path).bind files.textAt

end FileTable

end MarkView
