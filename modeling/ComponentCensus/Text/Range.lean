/-!
# Character classes given by ranges

A class of characters is a list of inclusive ranges of code points.  `inRanges` decides membership.
-/

namespace ComponentCensus.Text

/-- Whether the code point of a character lies in one of the given inclusive ranges. -/
def inRanges (ranges : List (Nat × Nat)) (c : Char) : Bool :=
  ranges.any fun range => range.1 ≤ c.toNat && c.toNat ≤ range.2

theorem inRanges_iff {ranges : List (Nat × Nat)} {c : Char} :
    inRanges ranges c = true ↔ ∃ range ∈ ranges, range.1 ≤ c.toNat ∧ c.toNat ≤ range.2 := by
  simp [inRanges, List.any_eq_true]

end ComponentCensus.Text
