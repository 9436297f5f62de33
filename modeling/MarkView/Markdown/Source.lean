import MarkView.Text.Punctuation
/-!
# Source text

The text under analysis as an array of characters, of which a part up to `stop`
is in view. Positions are indices into the array; a scan that finds nothing to
read at a position treats it as the end of the text.
-/

namespace MarkView.Markdown

/-- A text with the part of it in view. -/
structure Source where
  chars : Array Char
  stop : Nat
  stop_le : stop ≤ chars.size := by omega

namespace Source

/-- All of a text. -/
def ofString (s : String) : Source := ⟨s.toList.toArray, s.toList.toArray.size, Nat.le_refl _⟩

/-- The same text with only the part before `n` in view. -/
def upTo (s : Source) (n : Nat) : Source :=
  ⟨s.chars, min n s.stop, Nat.le_trans (Nat.min_le_right ..) s.stop_le⟩

/-- The character at a position in view. -/
@[inline] def get (s : Source) (i : Nat) (h : i < s.stop) : Char :=
  have : i < s.chars.size := Nat.lt_of_lt_of_le h s.stop_le
  s.chars[i]

/-- The character at a position, if it is in view. -/
@[inline] def get? (s : Source) (i : Nat) : Option Char :=
  if h : i < s.stop then some (s.get i h) else none

/-- Whether the character at a position is `c`. -/
@[inline] def has (s : Source) (i : Nat) (c : Char) : Bool :=
  if h : i < s.stop then s.get i h == c else false

/-- Whether the character at a position exists and satisfies `p`. -/
@[inline] def test (s : Source) (i : Nat) (p : Char → Bool) : Bool :=
  if h : i < s.stop then p (s.get i h) else false

/-- Whether `word` stands at a position. -/
def hasWord (s : Source) (i : Nat) : List Char → Bool
  | [] => true
  | c :: rest => s.has i c && s.hasWord (i + 1) rest

/-- The first position from `i` on whose character does not satisfy `p`. -/
@[specialize] def skipWhile (s : Source) (p : Char → Bool) (i : Nat) : Nat :=
  if h : i < s.stop then
    if p (s.get i h) then s.skipWhile p (i + 1) else i
  else i
termination_by s.stop - i

/-- The first position from `i` on that holds `c`. -/
def find? (s : Source) (c : Char) (i : Nat) : Option Nat :=
  let j := s.skipWhile (· != c) i
  if j < s.stop then some j else none

/-- How many characters directly before `i`, but not before `low`, satisfy `p`. -/
@[specialize] def countBefore (s : Source) (p : Char → Bool) (low i : Nat) : Nat :=
  match i with
  | 0 => 0
  | j + 1 =>
    if low ≤ j then
      if s.test j p then s.countBefore p low j + 1 else 0
    else 0

/-- The text between two positions. -/
def slice (s : Source) (i j : Nat) : String :=
  (s.chars.extract i j).foldl String.push ""

/-- A tab, a line tabulation, a form feed or a space. -/
def isBlank (c : Char) : Bool :=
  let n := c.toNat
  n == 0x20 || n == 0x9 || n == 0xB || n == 0xC

/-- A blank or a line ending. -/
def isWhite (c : Char) : Bool :=
  let n := c.toNat
  n == 0x20 || (0x9 ≤ n && n ≤ 0xD)

/-- A line feed or a carriage return. -/
def isLineEnd (c : Char) : Bool := c == '\n' || c == '\r'

/-- The first position from `i` on that holds no blank. -/
def skipBlanks (s : Source) (i : Nat) : Nat := s.skipWhile isBlank i

/-- The position after the line ending at `i`, if there is one; the end of the
text counts as a line ending. -/
def lineEnd? (s : Source) (i : Nat) : Option Nat :=
  if h : i < s.stop then
    let c := s.get i h
    if c == '\n' then some (i + 1)
    else if c == '\r' then some (if s.has (i + 1) '\n' then i + 2 else i + 1)
    else none
  else some i

/-- The position after the line that is blank from `i` on, if it is. -/
def blankLine? (s : Source) (i : Nat) : Option Nat := s.lineEnd? (s.skipBlanks i)

/-- Whether the line is blank from `i` on. -/
def isBlankLine (s : Source) (i : Nat) : Bool := (s.blankLine? i).isSome

/-- The position after the next line feed, or the end of the text. -/
def nextLine (s : Source) (i : Nat) : Nat :=
  let j := s.skipWhile (· != '\n') i
  if j < s.stop then j + 1 else j

/-- An upper bound of the number of steps of any scan that moves forward. -/
def fuel (s : Source) : Nat := s.stop + 1

end Source

end MarkView.Markdown
