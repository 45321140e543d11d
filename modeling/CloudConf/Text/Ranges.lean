/-! # Sets of code points as ascending ranges -/
namespace CloudConf.Text

/-- Membership in ascending ranges, both ends included. -/
def inRanges : List (Nat × Nat) → Nat → Bool
  | [], _ => false
  | (lo, hi) :: rest, n => if n < lo then false else if n ≤ hi then true else inRanges rest n

end CloudConf.Text
