/-!
# Ranges of code points

Character classes of the Unicode standard are unions of ranges. This module holds the one membership
test that the class tables share.
-/

namespace TaskEndpoints.Text

/-- Decide whether a code point lies in one of the closed ranges. -/
def inRanges (ranges : List (Nat × Nat)) (point : Nat) : Bool :=
  ranges.any fun r => r.1 ≤ point && point ≤ r.2

theorem inRanges_iff (ranges : List (Nat × Nat)) (point : Nat) :
    inRanges ranges point = true ↔ ∃ r ∈ ranges, r.1 ≤ point ∧ point ≤ r.2 := by
  simp [inRanges]

end TaskEndpoints.Text
