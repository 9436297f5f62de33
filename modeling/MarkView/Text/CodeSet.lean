/-!
# Sets of characters by their boundaries

A Unicode property is a set of code points that changes membership at a few
hundred places. A `CodeSet` lists these places in ascending order; a character
belongs to the set when an odd number of them lies at or below it.
-/

namespace MarkView.Text

/-- A set of code points, as the ascending places where membership changes. -/
structure CodeSet where
  bounds : Array Nat

namespace CodeSet

/-- How many boundaries lie at or below `n`, given that all of those before
`low` do and none from `high` on does. -/
def rankBetween (s : CodeSet) (n low high : Nat) : Nat :=
  if low < high then
    let mid := (low + high) / 2
    if s.bounds.getD mid 0 ≤ n then s.rankBetween n (mid + 1) high
    else s.rankBetween n low mid
  else low
termination_by high - low

/-- How many boundaries lie at or below `n`. -/
def rank (s : CodeSet) (n : Nat) : Nat := s.rankBetween n 0 s.bounds.size

/-- Membership. -/
def contains (s : CodeSet) (c : Char) : Bool := s.rank c.toNat % 2 == 1

end CodeSet

end MarkView.Text
