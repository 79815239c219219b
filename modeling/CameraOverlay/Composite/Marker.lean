import CameraOverlay.Frame
/-!
# Landmark markers

A debugging overlay: a dark square of luma `0` drawn on every anchor. The square is `size`
pixels on a side and its top-left corner is the anchor less `size / 2` on both axes; the chroma
plane is left alone. Only the part of a square that lies on the frame is written.
-/

namespace CameraOverlay

/-- Squares of `size` pixels drawn in luma `0`. -/
structure Marker where
  size : Nat
deriving Repr, DecidableEq

namespace Marker

/-- The marker size used when none is configured. -/
def default : Marker := ⟨4⟩

/-- The integers from `lo` up to but not including `hi`. -/
def span (lo hi : Int) : List Int :=
  (List.range (hi - lo).toNat).map fun (d : Nat) => lo + d

variable (m : Marker) (shape : Shape)

/-- The writes of the square on one anchor, cut to the frame. -/
def squareAt (ax ay : Int) : List Write :=
  let half : Int := (m.size / 2 : Nat)
  let left := ax - half
  let top := ay - half
  (span (max top 0) (min (top + m.size) shape.height)).flatMap fun y =>
    (span (max left 0) (min (left + m.size) shape.width)).filterMap fun x =>
      (shape.lumaIndex? x y).map fun pt => ⟨.luma, pt, 0⟩

/-- The writes of the squares on all anchors, in order. -/
def writes (anchors : List (Int × Int)) : List Write :=
  anchors.flatMap fun a => m.squareAt shape a.1 a.2

end Marker

def Frame.drawMarkers (f : Frame) (m : Marker) (anchors : List (Int × Int)) : Frame :=
  f.overwrite (m.writes f.shape anchors)

end CameraOverlay
