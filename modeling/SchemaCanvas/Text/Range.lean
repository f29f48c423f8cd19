/-!
# Sets of characters as ranges of code points

A Unicode property is a long list of ranges. `Text.Ranges` holds such a list, with both ends of
each range included, and `Text.Ranges.holds` decides membership.
-/

namespace SchemaCanvas.Text

/-- A set of code points, written as ranges with both ends included. -/
abbrev Ranges := List (Nat × Nat)

/-- Whether the code point of `c` lies in one of the ranges. -/
def Ranges.holds (ranges : Ranges) (c : Char) : Bool :=
  ranges.any fun range => decide (range.1 ≤ c.toNat) && decide (c.toNat ≤ range.2)

/-- A list of ranges holds a character exactly if its code point lies in one of them. -/
theorem Ranges.holds_iff (ranges : Ranges) (c : Char) :
    ranges.holds c = true ↔ ∃ range ∈ ranges, range.1 ≤ c.toNat ∧ c.toNat ≤ range.2 := by
  simp [Ranges.holds]

end SchemaCanvas.Text
