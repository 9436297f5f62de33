import MarkView.Markdown.Source
/-!
# Automatic links

An address between angle brackets: one that starts with a scheme, or that of a
mailbox.
-/

namespace MarkView.Markdown

/-- Characters of a scheme after the first. -/
def isSchemeChar (c : Char) : Bool := c.isAlphanum || c == '.' || c == '-' || c == '+'

/-- Characters of an address with a scheme. -/
def isAddressChar (c : Char) : Bool := 0x20 < c.toNat && c != '<' && c != '>'

/-- The closing bracket of an address with a scheme whose text starts at `i`. -/
def uriEnd? (s : Source) (i : Nat) : Option Nat :=
  if s.test i Char.isAlpha then
    let colon := s.skipWhile isSchemeChar (i + 1)
    let length := colon - i
    if s.has colon ':' && 2 ≤ length && length ≤ 32 then
      let last := s.skipWhile isAddressChar colon
      if s.has last '>' then some last else none
    else none
  else none

/-- Characters of the name of a mailbox. -/
def isMailboxChar (c : Char) : Bool :=
  c.isAlphanum || ".!#$%&'*+/=?^_\x60\x7b|\x7d~-".toList.contains c

/-- Characters of a part of the name of a host. -/
def isHostChar (c : Char) : Bool := c.isAlphanum || c == '-'

/-- Read the parts of the name of a host from `i` on: the position after them. -/
def hostEnd? (s : Source) (fuel i : Nat) : Option Nat :=
  match fuel with
  | 0 => none
  | fuel + 1 =>
    let next := s.skipWhile isHostChar i
    if next == i || 63 < next - i || s.has i '-' || s.has (next - 1) '-' then none
    else if s.has next '.' then hostEnd? s fuel (next + 1)
    else some next

/-- The closing bracket of the address of a mailbox whose text starts at `i`. -/
def mailboxEnd? (s : Source) (i : Nat) : Option Nat :=
  let sign := s.skipWhile isMailboxChar i
  if sign == i || !s.has sign '@' then none
  else (hostEnd? s s.fuel (sign + 1)).filter (s.has · '>')

/-- The closing bracket of the automatic link whose text starts at `i`. -/
def autolinkEnd? (s : Source) (i : Nat) : Option Nat :=
  (uriEnd? s i).or (mailboxEnd? s i)

end MarkView.Markdown
