/-!
# Code point ranges

A class of characters is a list of ranges of code points in increasing order.  `inRanges`
decides membership.
-/

namespace CommitPolicy.Text

/-- Whether `n` lies in one of the ranges.  The scan ends at the first range that starts above
`n`, so the ranges have to be in increasing order. -/
def inRanges : List (Nat × Nat) → Nat → Bool
  | [], _ => false
  | (lo, hi) :: rest, n => if n < lo then false else n ≤ hi || inRanges rest n

end CommitPolicy.Text
