/-! Sets of characters given as ascending ranges of code points. -/
namespace Stencil.Text

/-- Membership in ranges that are given in ascending order, ends included. -/
def inRanges : List (Nat × Nat) → Nat → Bool
  | [], _ => false
  | (low, high) :: rest, n => if n < low then false else n ≤ high || inRanges rest n

end Stencil.Text
