import MarkView.Markdown.Autolink
import MarkView.Markdown.Block
import MarkView.Markdown.Emphasis
/-!
# Running text

The tokens of a block become pieces from left to right: code, raw HTML, links and
images are settled at once, delimiter runs are left as they are. Then the runs are
paired, apart for the text of each link, and the pieces become events.
-/

namespace MarkView.Markdown

/-- A part of running text. `run` refers to a delimiter run by its number. -/
inductive Piece
  | events (events : List Event)
  | run (number : Nat)
  | linkStart (tag : Tag)
  | linkStop (name : TagName)
  deriving Inhabited

/-- An opening bracket that may turn out to start a link or an image: the place of
its piece, and the position after it. -/
structure Bracket where
  place : Nat
  stop : Nat
  image : Bool
  deriving Inhabited

/-- What links and footnotes are defined in the document. -/
structure Definitions where
  targets : Std.HashMap String LinkTarget
  footnotes : Std.HashMap String Unit
  gfm : Bool

/-- The state of the first pass. The oldest `disabled` brackets open no links any
more, since a link was found after them. `spent` is the number of a closing bracket
that was tried as the end of a reference, `unpaired` the lengths of backtick runs
for which no partner follows, and `budget` how much text link references may still
bring in. -/
structure InlineState where
  pieces : Array Piece := #[]
  runs : Array Run := #[]
  brackets : Array Bracket := #[]
  disabled : Nat := 0
  spent : Option Nat := none
  unpaired : List Nat := []
  limits : RawLimits := .unknown
  budget : Nat

namespace InlineState

/-- Add a piece. -/
def add (st : InlineState) (piece : Piece) : InlineState :=
  { st with pieces := st.pieces.push piece }

/-- Add an event. -/
def emit (st : InlineState) (event : Event) : InlineState := st.add (.events [event])

/-- Add the text between two positions. -/
def addText (st : InlineState) (s : Source) (i j : Nat) : InlineState :=
  if i < j then st.emit (.text (s.slice i j)) else st

/-- Disable all brackets for links that are open. -/
def disableLinks (st : InlineState) : InlineState := { st with disabled := st.brackets.size }

/-- Turn the piece of an opening bracket into the start of a link or an image, and
add its end. -/
def closeLink (st : InlineState) (bracket : Bracket) (url title : String) : InlineState :=
  let (tag, name) :=
    if bracket.image then (Tag.image url title, TagName.image)
    else (Tag.link url title, TagName.link)
  let st := { st with pieces := st.pieces.set! bracket.place (.linkStart tag) }.add (.linkStop name)
  if bracket.image then st else st.disableLinks

end InlineState

/-! ## Code spans -/

/-- The text of a code span between two positions: line endings as spaces, with
what continues containers left out, and in a table without the backslash before a
bar. -/
def codeText (s : Source) (leaf : Leaf) (stop fuel i : Nat) (text : String) : String :=
  match fuel with
  | 0 => text
  | fuel + 1 =>
    if stop ≤ i then text
    else
      match s.get? i with
      | none => text
      | some c =>
        if Source.isLineEnd c then
          codeText s leaf stop fuel (skipContainers (s.upTo stop) leaf.containers (i + 1))
            (text.push ' ')
        else if c == '\\' && leaf.inTable && i + 1 < stop && s.has (i + 1) '|' then
          codeText s leaf stop fuel (i + 2) (text.push '|')
        else codeText s leaf stop fuel (i + 1) (text.push c)

/-- Take one space off both ends of the text of a code span that has one at each
and something else between. -/
def trimCode (text : String) : String :=
  match text.toList with
  | ' ' :: rest =>
    if rest.getLast? == some ' ' && rest.any (· != ' ') then String.ofList rest.dropLast else text
  | _ => text

/-- The first token from number `k` on that is a run of `count` backticks. -/
def findBackticks? (tokens : Array Token) (count fuel k : Nat) : Option (Nat × Token) :=
  match fuel with
  | 0 => none
  | fuel + 1 =>
    match tokens[k]? with
    | none => none
    | some token =>
      match token.kind with
      | .backticks n _ =>
        if n == count then some (k, token) else findBackticks? tokens count fuel (k + 1)
      | _ => findBackticks? tokens count fuel (k + 1)

/-! ## Links -/

/-- Skip white space with at most one line ending inside a link. -/
def skipLinkSpace (s : Source) (leaf : Leaf) (i : Nat) : Nat :=
  let i := s.skipBlanks i
  match s.lineEnd? i with
  | some next => s.skipBlanks (skipContainers s leaf.containers next)
  | none => i

/-- Where the text goes on after a line ending at `i`: at the start of the first
token from number `k` on that reaches beyond it. -/
def nextTextStart? (tokens : Array Token) (i fuel k : Nat) : Option Nat :=
  match fuel with
  | 0 => none
  | fuel + 1 =>
    match tokens[k]? with
    | none => none
    | some token =>
      if token.stop ≤ i + 1 then nextTextStart? tokens i fuel (k + 1)
      else if i < token.start then some token.start
      else none

/-- Read the title of a link up to its closing `quote`, where the tokens from number
`k` on tell where further lines start. -/
def linkTitleRest? (s : Source) (leaf : Leaf) (k : Nat) (quote : Char) (fuel i : Nat)
    (text : String) : Option (Nat × String) :=
  match fuel with
  | 0 => none
  | fuel + 1 =>
    match s.get? i with
    | none => none
    | some c =>
      if c == quote then some (i + 1, text)
      else if c == '(' && quote == ')' then none
      else
        let line := if Source.isLineEnd c then nextTextStart? leaf.tokens i s.fuel k else none
        match line with
        | some next => linkTitleRest? s leaf k quote fuel next (text.push '\n')
        | none =>
          if c == '&' then
            match characterReference? s i with
            | some (next, value) => linkTitleRest? s leaf k quote fuel next (text ++ value)
            | none => linkTitleRest? s leaf k quote fuel (i + 1) (text.push c)
          else if c == '\\' && leaf.inTable && s.has (i + 1) '\\' && s.has (i + 2) '|' then
            linkTitleRest? s leaf k quote fuel (i + 3) (text.push '|')
          else if escapesNext s i then
            linkTitleRest? s leaf k quote fuel (i + 2) (text ++ s.slice (i + 1) (i + 2))
          else linkTitleRest? s leaf k quote fuel (i + 1) (text.push c)

/-- The title of a link at `i`. -/
def linkTitle? (s : Source) (leaf : Leaf) (k i : Nat) : Option (Nat × String) :=
  if s.has i '"' then linkTitleRest? s leaf k '"' s.fuel (i + 1) ""
  else if s.has i '\'' then linkTitleRest? s leaf k '\'' s.fuel (i + 1) ""
  else if s.has i '(' then linkTitleRest? s leaf k ')' s.fuel (i + 1) ""
  else none

/-- The destination and title in parentheses at `i`, with the position after them. -/
def inlineTarget? (s : Source) (leaf : Leaf) (k i : Nat) : Option (Nat × LinkTarget) :=
  if s.has i '(' then
    (destination? s (skipLinkSpace s leaf (i + 1))).bind fun (last, urlStart, urlStop) =>
      let url := unescape s leaf.inTable urlStart urlStop
      let next := skipLinkSpace s leaf last
      let (stop, title) :=
        match linkTitle? s leaf k next with
        | some (stop, title) => (skipLinkSpace s leaf stop, title)
        | none => (next, "")
      if s.has stop ')' then some (stop + 1, ⟨url, title⟩) else none
  else none

/-- A label in running text is that of a link or of a footnote. -/
inductive Reference
  | link (label : String)
  | footnote (label : String)

/-- The label in brackets at `i`, with the position after it. -/
def reference? (s : Source) (gfm : Bool) (leaf : Leaf) (i : Nat) : Option (Nat × Reference) :=
  if s.has i '[' then
    let footnote :=
      if gfm && s.has (i + 1) '^' && i + 2 < s.stop && !s.has (i + 2) ']' then
        label? s leaf.inTable (fun _ => none) (i + 2)
      else none
    match footnote with
    | some (next, label) => some (next, .footnote label)
    | none =>
      (label? s leaf.inTable (fun j => some (skipContainers s leaf.containers j)) (i + 1)).map
        fun (next, label) => (next, .link label)
  else none

/-- What a closing bracket is followed by, as far as references go: the label of a
full reference, the empty brackets of a collapsed one, or neither. -/
inductive Following
  | full (label : String) (stop : Nat)
  | collapsed
  | nothing

/-- What the closing bracket before `i` is followed by. -/
def following (s : Source) (gfm : Bool) (leaf : Leaf) (i : Nat) : Following :=
  if s.has i '[' && s.has (i + 1) ']' then .collapsed
  else
    match reference? s gfm leaf i with
    | some (stop, .link label) => .full label stop
    | _ => .nothing

/-- The number of the first token from number `k` on that ends after `i`. -/
def tokenBeyond (tokens : Array Token) (i fuel k : Nat) : Nat :=
  match fuel with
  | 0 => k
  | fuel + 1 =>
    match tokens[k]? with
    | none => k
    | some token => if token.stop ≤ i then tokenBeyond tokens i fuel (k + 1) else k

namespace InlineState

/-- Look up a link definition, as long as the budget lasts. -/
def lookup? (st : InlineState) (definitions : Definitions) (label : String) : Option LinkTarget :=
  if st.budget = 0 then none else definitions.targets[labelKey label]?

/-- Close an opening bracket as a reference to a footnote. -/
def closeFootnote (st : InlineState) (bracket : Bracket) (label : String) : InlineState :=
  let pieces := st.pieces.take bracket.place
  let pieces := if bracket.image then pieces.push (.events [.text "!"]) else pieces
  { st with
    pieces := pieces.push (.events [.footnoteReference label])
    brackets := #[]
    disabled := 0 }

/-- Close an opening bracket with the closing one that is token `k`, as a reference.
The result is the position after it, if it is one. -/
def closeReference (st : InlineState) (s : Source) (definitions : Definitions) (leaf : Leaf)
    (k : Nat) (token : Token) (bracket : Bracket) : InlineState × Option Nat :=
  let own :=
    (reference? (s.upTo token.stop) definitions.gfm leaf (bracket.stop - 1)).bind fun (stop, r) =>
      if stop == token.stop then some r else none
  let viable := st.spent != some k
  let (st, label, stop) : InlineState × Option Reference × Nat :=
    match following s definitions.gfm leaf token.stop with
    | .full label stop =>
      ({ st with spent := some (tokenBeyond leaf.tokens (stop - 1) s.fuel (k + 1)) },
        some (.link label), stop)
    | .collapsed => (st, if viable then own else none, token.stop + 2)
    | .nothing => (st, if viable then own else none, token.stop)
  match label with
  | some (.footnote label) =>
    if definitions.footnotes.contains (labelKey label) then
      (st.closeFootnote bracket label, some token.stop)
    else (st, none)
  | some (.link label) =>
    match st.lookup? definitions label with
    | some target =>
      let cost := target.url.utf8ByteSize + target.title.utf8ByteSize
      ({ st.closeLink bracket target.url target.title with budget := st.budget - cost }, some stop)
    | none => (st, none)
  | none => (st, none)

/-- Take the closing bracket that is token `k`. The result is the position from
which the text goes on. -/
def closeBracket (st : InlineState) (s : Source) (definitions : Definitions) (leaf : Leaf)
    (k : Nat) (token : Token) : InlineState × Nat :=
  let plain (st : InlineState) := (st.addText s token.start token.stop, token.stop)
  match st.brackets.back? with
  | none => plain st
  | some bracket =>
    let size := st.brackets.size - 1
    let usable := bracket.image || st.disabled ≤ size
    let st := { st with brackets := st.brackets.pop, disabled := min st.disabled size }
    if usable then
      match inlineTarget? s leaf (k + 1) token.stop with
      | some (next, target) => (st.closeLink bracket target.url target.title, next)
      | none =>
        match st.closeReference s definitions leaf k token bracket with
        | (st, some next) => (st, next)
        | (st, none) => plain st
    else plain st

/-- Take a `<`: an automatic link, raw HTML, or text. The result is the position
from which the text goes on. -/
def angle (st : InlineState) (s : Source) (leaf : Leaf) (token : Token) : InlineState × Nat :=
  match autolinkEnd? s token.stop with
  | some last =>
    let address := s.slice token.stop last
    let events := [Event.start (.link address ""), .text address, .stop .link]
    (st.add (.events events), last + 1)
  | none =>
    if s.has token.stop '!' || s.has token.stop '?' then
      match declarationEnd? s st.limits token.stop with
      | (some stop, _) => (st.emit (.inlineHtml (s.slice token.start stop)), stop)
      | (none, limits) =>
        ({ st with limits }.addText s token.start token.stop, token.stop)
    else
      match tag? s (some (skipContainers s leaf.containers)) token.start with
      | some (stop, text) => (st.emit (.inlineHtml text), stop)
      | none => (st.addText s token.start token.stop, token.stop)

/-- Take the backticks that are token `k`: a code span up to their partner, or text.
The result is the number of the next token. -/
def backticks (st : InlineState) (s : Source) (leaf : Leaf) (k : Nat) (token : Token)
    (count : Nat) (escaped : Bool) : InlineState × Nat :=
  let plain (st : InlineState) := (st.addText s token.start token.stop, k + 1)
  let length := if escaped then count - 1 else count
  if length = 0 || st.unpaired.contains length then plain st
  else
    match findBackticks? leaf.tokens length s.fuel (k + 1) with
    | none => plain { st with unpaired := length :: st.unpaired }
    | some (partner, last) =>
      let st := if escaped then st.addText s token.start (token.start + 1) else st
      let text := trimCode (codeText s leaf last.start s.fuel token.stop "")
      (st.emit (.code text), partner + 1)

/-- Take the tokens from number `k` on, as far as they lie beyond position `i`. -/
def takeTokens (st : InlineState) (s : Source) (definitions : Definitions) (leaf : Leaf)
    (fuel k i : Nat) : InlineState :=
  match fuel with
  | 0 => st
  | fuel + 1 =>
    match leaf.tokens[k]? with
    | none => st
    | some token =>
      if token.stop ≤ i then
        st.takeTokens s definitions leaf fuel (k + 1) i
      else
        let start := max token.start i
        match token.kind with
        | .text =>
          let st :=
            if start < token.stop then st.addText s start token.stop else st.emit (.text "")
          st.takeTokens s definitions leaf fuel (k + 1) i
        | .literal value => (st.emit (.text value)).takeTokens s definitions leaf fuel (k + 1) i
        | .softBreak => (st.emit .softBreak).takeTokens s definitions leaf fuel (k + 1) i
        | .hardBreak => (st.emit .hardBreak).takeTokens s definitions leaf fuel (k + 1) i
        | .run mark count canOpen canClose =>
          let st := st.add (.run st.runs.size)
          { st with runs := st.runs.push { mark, count, canOpen, canClose } }.takeTokens s
            definitions leaf fuel (k + 1) i
        | .backticks count escaped =>
          let (st, next) := st.backticks s leaf k token count escaped
          st.takeTokens s definitions leaf fuel next i
        | .lessThan =>
          let (st, next) := st.angle s leaf token
          st.takeTokens s definitions leaf fuel (k + 1) next
        | .linkOpen =>
          let bracket : Bracket := ⟨st.pieces.size, token.stop, false⟩
          { st.addText s token.start token.stop with brackets := st.brackets.push bracket
          }.takeTokens s definitions leaf fuel (k + 1) i
        | .imageOpen =>
          let bracket : Bracket := ⟨st.pieces.size, token.stop, true⟩
          { st.addText s token.start token.stop with brackets := st.brackets.push bracket
          }.takeTokens s definitions leaf fuel (k + 1) i
        | .bracketClose =>
          let (st, next) := st.closeBracket s definitions leaf k token
          st.takeTokens s definitions leaf fuel (k + 1) next

end InlineState

/-! ## Events -/

/-- Pair the delimiter runs among pieces, apart for the text of each link. -/
def pairRuns (pieces : List Piece) (runs : Array Run) (stack : OpenerStack)
    (outer : List OpenerStack) : Array Run :=
  match pieces with
  | [] => runs
  | .run number :: rest =>
    let (runs, stack) := pairRun runs stack number
    pairRuns rest runs stack outer
  | .linkStart _ :: rest => pairRuns rest runs {} (stack :: outer)
  | .linkStop _ :: rest =>
    match outer with
    | stack :: outer => pairRuns rest runs stack outer
    | [] => pairRuns rest runs stack []
  | .events _ :: rest => pairRuns rest runs stack outer

/-- The events of a delimiter run. -/
def Run.events (run : Run) : List Event :=
  run.closes.map .stop ++
    (if run.rest = 0 then []
      else [.text (String.ofList (List.replicate run.rest run.mark))]) ++
    run.opens.map .start

/-- The events of a piece. -/
def Piece.toEvents (runs : Array Run) : Piece → List Event
  | events es => es
  | run number => (runs[number]?.map Run.events).getD []
  | linkStart tag => [.start tag]
  | linkStop name => [.stop name]

/-- The events of running text, and the budget left after it. -/
def leafEvents (s : Source) (definitions : Definitions) (budget : Nat) (leaf : Leaf) :
    List Event × Nat :=
  let st := ({ budget } : InlineState).takeTokens (s.upTo leaf.stop) definitions leaf
    (leaf.tokens.size + 1) 0 0
  let pieces := st.pieces.toList
  let runs := pairRuns pieces st.runs {} []
  (pieces.flatMap (Piece.toEvents runs), st.budget)

end MarkView.Markdown
