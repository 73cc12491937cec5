/-! # Sets of characters as ranges

A character class is a list of disjoint code point ranges in ascending order, with both ends
included. -/

namespace Bindery.Text

/-- Code point ranges in ascending order, both ends included. -/
abbrev Ranges := List (Nat × Nat)

/-- Whether a character lies in one of the ranges; the search stops at the first range that
begins behind it. -/
def Ranges.contains : Ranges → Char → Bool
  | [], _ => false
  | (low, high) :: rest, c =>
    if c.toNat < low then false
    else if c.toNat ≤ high then true
    else contains rest c

end Bindery.Text
