/-!
# Sets of characters as ranges

A property of characters that holds on long stretches of code points is kept as a list of
inclusive ranges `(lo, hi)` sorted by start. A code point has the property when it lies in one
of the ranges.
-/

namespace CameraOverlay.Text

/-- Whether a code point lies in one of the ranges. -/
def inRanges (rs : Array (Nat × Nat)) (n : Nat) : Bool := rs.any fun (lo, hi) => lo ≤ n && n ≤ hi

end CameraOverlay.Text
