/-!
# Sets of code points

A property of characters is given by the ascending, disjoint intervals of its code points.
-/

namespace BargeIn.Unicode

/-- Is `n` in one of the closed intervals of an ascending list?  The search ends at the first
interval that does not lie wholly below `n`. -/
def within : List (Nat × Nat) → Nat → Bool
  | [], _ => false
  | (lo, hi) :: rest, n => if n ≤ hi then decide (lo ≤ n) else within rest n

end BargeIn.Unicode
