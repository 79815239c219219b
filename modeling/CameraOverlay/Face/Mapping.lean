import CameraOverlay.Face.Basic
/-!
# From landmark space to the frame

Landmarks come in the sensor's orientation, a quarter turn against the frame. A landmark point
`(x, y)` lies on the frame at `(y, H - x)` for a frame of height `H`, the subtraction saturating
at the ends of the 32-bit range. The height is taken as a 32-bit signed number, so a height of
`2 ^ 31` or more wraps to a negative one, as a plain conversion does.
-/

namespace CameraOverlay

/-- Maps landmark points to frame anchors for frames of one height. -/
structure Mapper where
  frameHeight : Int32
deriving Repr, DecidableEq

namespace Mapper

/-- The mapper for frames of this height; the height wraps into 32 signed bits. -/
def ofHeight (height : Nat) : Mapper := ⟨Int32.ofInt height⟩

variable (m : Mapper)

/-- Where a landmark point lies on the frame. -/
def toFrame (p : Point) : Point := ⟨p.y, satSub m.frameHeight p.x⟩

/-- Where landmark `i` of a face lies on the frame, if the face has that landmark. -/
def anchorFor? (l : Landmarks) (i : Nat) : Option Point := (l.part? i).map m.toFrame

/-- All 68 landmarks of a face on the frame, in landmark order. -/
def allAnchors (l : Landmarks) : List Point := l.points.toList.map m.toFrame

/-- Landmark `i` of every face that has landmarks, in face order. -/
def anchors (faces : List Face) (i : Nat) : List Point :=
  (faces.filterMap (·.landmarks)).filterMap fun l => m.anchorFor? l i

end Mapper

def Point.toInts (p : Point) : Int × Int := (p.x.toInt, p.y.toInt)

end CameraOverlay
