import MarkView.Tree.Event
/-!
# Emphasis

Delimiter runs are paired from the left: a run that may close looks back for the
nearest run of its own character that may open and fits it. Runs are known by
numbers; each ends up as some closings, delimiters left over as text, and some
openings, in this order.
-/

namespace MarkView.Markdown

/-- A delimiter run and what has become of it: the elements that it closes, the
innermost first, how many of its delimiters are still text, and the elements that
it opens, the outermost first. -/
structure Run where
  mark : Char
  count : Nat
  canOpen : Bool
  canClose : Bool
  closes : List TagName := []
  rest : Nat := count
  opens : List Tag := []
  deriving Inhabited

/-- A run that may still open an element, by its number. -/
structure Opener where
  number : Nat
  mark : Char
  length : Nat
  count : Nat
  both : Bool
  deriving Inhabited

/-- The runs that may still open an element within one stretch of text, the oldest
first. For each class of closing runs `bounds` tells below which place the last
search of its kind found no match. -/
structure OpenerStack where
  openers : Array Opener := #[]
  bounds : Array Nat := Array.replicate 9 0
  deriving Inhabited

namespace OpenerStack

/-- The class of closing runs of a character by their length. Tildes of any length
are one class. -/
def lengthClass (mark : Char) (length : Nat) : Nat :=
  if mark == '*' then length % 3 else if mark == '_' then 3 + length % 3 else 8

/-- The class of closing runs of a character that cannot open. -/
def closerClass (mark : Char) : Nat :=
  if mark == '*' then 6 else if mark == '_' then 7 else 8

/-- Below which place a closing run need not look. -/
def bound (stack : OpenerStack) (mark : Char) (length : Nat) (both : Bool) : Nat :=
  let byLength := stack.bounds.getD (lengthClass mark length) 0
  if both then byLength else min byLength (stack.bounds.getD (closerClass mark) 0)

/-- Record that a closing run found no match. -/
def raiseBound (stack : OpenerStack) (mark : Char) (length : Nat) (both : Bool) : OpenerStack :=
  let place := if both then lengthClass mark length else closerClass mark
  { stack with bounds := stack.bounds.set! place stack.openers.size }

/-- Keep only the oldest `n` runs. -/
def keep (stack : OpenerStack) (n : Nat) : OpenerStack :=
  ⟨stack.openers.take n, stack.bounds.map (min n)⟩

/-- Add a run. -/
def push (stack : OpenerStack) (opener : Opener) : OpenerStack :=
  { stack with openers := stack.openers.push opener }

/-- Whether a run that may open fits a closing run. Tildes fit when they are as
many; otherwise, if one of the two runs can both open and close, their lengths must
not add up to a multiple of three, unless both are multiples of three. -/
def fits (opener : Opener) (mark : Char) (length : Nat) (both : Bool) : Bool :=
  opener.mark == mark &&
    (mark != '~' || opener.length == length) &&
    ((!both && !opener.both) || (length + opener.length) % 3 != 0 || length % 3 == 0)

/-- The place of the newest run that fits, of those from `low` on and before `n`. -/
def findFrom (stack : OpenerStack) (mark : Char) (length : Nat) (both : Bool) (low n : Nat) :
    Option (Nat × Opener) :=
  match n with
  | 0 => none
  | n + 1 =>
    if low ≤ n then
      match stack.openers[n]? with
      | some opener =>
        if fits opener mark length both then some (n, opener)
        else stack.findFrom mark length both low n
      | none => none
    else none

end OpenerStack

/-- The elements that a pair of runs encloses text in, when `n` delimiters of each
are used: the innermost first. -/
def pairTags (mark : Char) : Nat → List (Tag × TagName)
  | 0 => []
  | 1 => if mark == '~' then [(.strikethrough, .strikethrough)] else [(.emphasis, .emphasis)]
  | n + 2 =>
    (if mark == '~' then (.strikethrough, .strikethrough) else (.strong, .strong)) ::
      pairTags mark n

/-- Use `n` delimiters of a run to open elements. -/
def Run.opening (run : Run) (tags : List Tag) (n : Nat) : Run :=
  { run with rest := run.rest - n, opens := tags.reverse ++ run.opens }

/-- Use `n` delimiters of a run to close elements. -/
def Run.closing (run : Run) (names : List TagName) (n : Nat) : Run :=
  { run with rest := run.rest - n, closes := run.closes ++ names }

/-- Let the run with the given number close what it can, as long as `rest` of its
delimiters are left. -/
def closeRun (runs : Array Run) (stack : OpenerStack) (number : Nat) (run : Run) (fuel rest : Nat) :
    Array Run × OpenerStack × Nat :=
  match fuel with
  | 0 => (runs, stack, rest)
  | fuel + 1 =>
    if rest = 0 then (runs, stack, 0)
    else
      let both := run.canOpen && run.canClose
      let low := stack.bound run.mark run.count both
      match stack.findFrom run.mark run.count both low stack.openers.size with
      | none => (runs, stack.raiseBound run.mark run.count both, rest)
      | some (place, opener) =>
        let n := min rest opener.count
        let tags := pairTags run.mark n
        let runs := runs.modify opener.number (·.opening (tags.map (·.1)) n)
        let runs := runs.modify number (·.closing (tags.map (·.2)) n)
        let stack := stack.keep place
        let stack :=
          if n < opener.count then stack.push { opener with count := opener.count - n } else stack
        closeRun runs stack number run fuel (rest - n)

/-- Pair the run with the given number with earlier ones as far as it closes, and
let what is left of it open, if it may. -/
def pairRun (runs : Array Run) (stack : OpenerStack) (number : Nat) : Array Run × OpenerStack :=
  match runs[number]? with
  | none => (runs, stack)
  | some run =>
    let (runs, stack, rest) :=
      if run.canClose then closeRun runs stack number run (run.count + 1) run.count
      else (runs, stack, run.count)
    if 0 < rest && run.canOpen then
      (runs, stack.push ⟨number, run.mark, run.count, rest, run.canOpen && run.canClose⟩)
    else (runs, stack)

end MarkView.Markdown
