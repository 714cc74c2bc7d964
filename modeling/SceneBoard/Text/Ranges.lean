/-! # Sets of characters given by ranges of code points -/

namespace SceneBoard.Text

/-- A set of code points, written as its ranges `(first, last)` in ascending order. -/
abbrev Ranges := List (Nat × Nat)

/-- The set has the character. -/
def Ranges.has (ranges : Ranges) (c : Char) : Bool :=
  ranges.any fun r => r.1 ≤ c.toNat && c.toNat ≤ r.2

theorem Ranges.has_eq_true_iff {ranges : Ranges} {c : Char} :
    ranges.has c = true ↔ ∃ r ∈ ranges, r.1 ≤ c.toNat ∧ c.toNat ≤ r.2 := by
  simp [Ranges.has]

end SceneBoard.Text
