/-! Sets of characters given by inclusive ranges of code points. -/
namespace FailureIntake.Text

/-- A character class as a list of inclusive code-point ranges. -/
structure CharRanges where
  ranges : List (Nat × Nat)

/-- Membership tests the ranges from the first to the last. -/
def CharRanges.contains (s : CharRanges) (c : Char) : Bool :=
  s.ranges.any fun r => r.1 ≤ c.toNat && c.toNat ≤ r.2

end FailureIntake.Text
