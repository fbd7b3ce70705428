namespace Reshape.Text

/-- Membership in ascending, disjoint, closed ranges of code points. -/
def inRanges : List (Nat × Nat) → Nat → Bool
  | [], _ => false
  | (first, last) :: rest, n =>
    if n < first then false else decide (n ≤ last) || inRanges rest n

end Reshape.Text
