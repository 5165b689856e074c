/-!
Sets of characters given as ranges of code points, the form in which the properties of the
Unicode character database are tabulated.
-/

namespace Receipt.Text

/-- Inclusive ranges of code points, in increasing order. -/
abbrev CharRanges := List (Nat × Nat)

/-- Whether a code point lies in one of the ranges. -/
def CharRanges.covers (ranges : CharRanges) (codePoint : Nat) : Bool :=
  ranges.any fun range => range.1 ≤ codePoint && codePoint ≤ range.2

theorem CharRanges.covers_iff {ranges : CharRanges} {n : Nat} :
    ranges.covers n = true ↔ ∃ range ∈ ranges, range.1 ≤ n ∧ n ≤ range.2 := by
  simp [CharRanges.covers]

end Receipt.Text
