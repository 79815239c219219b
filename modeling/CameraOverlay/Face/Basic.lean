/-!
# Faces: rectangles and landmarks

A detected face has a bounding rectangle and, when the landmark predictor ran, 68 landmark
points in the usual numbering (jaw, brows, nose, eyes, mouth). Coordinates are 32-bit signed
integers; sums and differences that leave that range stick at its ends (saturating
arithmetic), while widths and heights are computed exactly in wider integers.

The sensor reports a face as `(x, y, width, height)` in its own orientation, turned a quarter
against the frame: `FaceRect.ofSensor` swaps the axes and mirrors against the frame height.
-/

namespace CameraOverlay

/-- `a + b`, stuck at the ends of the 32-bit range. -/
def satAdd (a b : Int32) : Int32 := Int32.ofIntClamp (a.toInt + b.toInt)

/-- `a - b`, stuck at the ends of the 32-bit range. -/
def satSub (a b : Int32) : Int32 := Int32.ofIntClamp (a.toInt - b.toInt)

structure Point where
  x : Int32
  y : Int32
deriving Repr, DecidableEq, Inhabited

/-- Moves a point, with saturation on both axes. -/
def Point.offset (p : Point) (dx dy : Int32) : Point := ⟨satAdd p.x dx, satAdd p.y dy⟩

/-- A face's bounding box in frame orientation. -/
structure FaceRect where
  top : Int32
  bottom : Int32
  left : Int32
  right : Int32
deriving Repr, DecidableEq, Inhabited

namespace FaceRect

/-- A box reported by the sensor: the sensor's `x` runs down the frame and its `y` runs right
to left from the frame height. -/
def ofSensor (x y width height frameHeight : Int32) : FaceRect :=
  { top := x
    bottom := satAdd x height
    right := satSub frameHeight y
    left := satSub (satSub frameHeight y) width }

/-- `right - left`, exact. -/
def width (r : FaceRect) : Int := r.right.toInt - r.left.toInt

/-- `bottom - top`, exact. -/
def height (r : FaceRect) : Int := r.bottom.toInt - r.top.toInt

end FaceRect

/-- The number of landmark points of a face. -/
def landmarkCount : Nat := 68

/-- Why a list of points is not a set of landmarks. -/
inductive LandmarkError where
  | pointCount (n : Nat)
deriving Repr, DecidableEq

def LandmarkError.message : LandmarkError → String
  | .pointCount n => s!"expected 68 landmark points, got {n}"

structure Landmarks where
  points : Array Point
  size_eq : points.size = landmarkCount

namespace Landmarks

/-- Inner end of the left brow. -/
def leftBrowInner : Nat := 19
/-- Inner end of the right brow. -/
def rightBrowInner : Nat := 24
/-- Top of the nose bridge. -/
def noseBridge : Nat := 27
/-- Tip of the nose. -/
def noseTip : Nat := 30
/-- Bottom of the nose. -/
def noseBottom : Nat := 33
/-- Top of the upper lip. -/
def upperLipTop : Nat := 51
/-- Bottom of the lower lip. -/
def lowerLipBottom : Nat := 57

/-- Accepts exactly 68 points. -/
def ofPoints? (ps : Array Point) : Except LandmarkError Landmarks :=
  if h : ps.size = landmarkCount then .ok ⟨ps, h⟩ else .error (.pointCount ps.size)

variable (l : Landmarks)

/-- The point with this index, if there is one. -/
def part? (i : Nat) : Option Point := l.points[i]?

/-- A point the numbering guarantees. -/
def get (i : Nat) (h : i < landmarkCount := by decide) : Point :=
  have : i < l.points.size := l.size_eq ▸ h
  l.points[i]

/-- Vertical distance between the top of the upper lip and the bottom of the lower lip. -/
def mouthGap : Int := ((l.get upperLipTop).y.toInt - (l.get lowerLipBottom).y.toInt).natAbs

end Landmarks

/-- A detected face: its box and, if predicted, its landmarks. -/
structure Face where
  rect : FaceRect
  landmarks : Option Landmarks

end CameraOverlay
