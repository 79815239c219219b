/-!
# Pipeline settings

How often faces are detected and gestures sampled, how large a head turn or mouth opening must
be to count, and how large landmark markers are drawn. Every field has the default the camera
uses when no settings are given.
-/

namespace CameraOverlay

structure Config where
  /-- Ask the detector on every `detectionInterval`-th frame. -/
  detectionInterval : Nat := 1
  /-- Sample gestures on every `gestureInterval`-th face. -/
  gestureInterval : Nat := 9
  /-- A head turn moves the nose by more than the face width over this. -/
  headTurnDivisor : Int32 := 12
  /-- An open mouth is taller than the face height over this. -/
  mouthOpenDivisor : Int32 := 6
  /-- Side of a landmark marker square, in pixels. -/
  markerSize : Nat := 4
deriving Repr, DecidableEq, Inhabited

end CameraOverlay
