/-!
# Ranges of code points

Character classes of a standard are written as sorted tables of inclusive code
point ranges. This file holds the tables' common membership test.
-/

namespace RunOnce.Text

/-- A sorted table of inclusive code point ranges. -/
abbrev Ranges := List (Nat × Nat)

/-- Whether a code point lies in one of the ranges. -/
def Ranges.contains (ranges : Ranges) (code : Nat) : Bool :=
  ranges.any fun range => range.1 ≤ code && code ≤ range.2

theorem Ranges.contains_iff (ranges : Ranges) (code : Nat) :
    ranges.contains code = true ↔ ∃ range ∈ ranges, range.1 ≤ code ∧ code ≤ range.2 := by
  simp [Ranges.contains]

end RunOnce.Text
