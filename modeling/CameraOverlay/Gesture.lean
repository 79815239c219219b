import CameraOverlay.Config
import CameraOverlay.Face.Basic
/-!
# Gestures

The tracker watches the first face of each frame for two gestures: a head turn, seen as the
bottom of the nose moving sideways by more than the face width over a divisor since the previous
frame, and an open mouth, seen as the lips standing further apart than the face height over
another divisor. Both are checked on every `interval`-th face that has landmarks, starting with
the first; the nose position is remembered from every such face, sampled or not, so a head turn
compares a sampled face with the one just before it. Faces without landmarks are ignored.
All quantities are in landmark coordinates; divisions truncate toward zero.
-/

namespace CameraOverlay

structure GestureEvents where
  headTurn : Bool
  mouthOpen : Bool
deriving Repr, DecidableEq, Inhabited

/-- The gesture tracker: its settings, the number of faces seen, and the last nose position. -/
structure Gestures where
  interval : Nat
  headTurnDivisor : Int
  mouthOpenDivisor : Int
  count : Nat
  previousNose : Option Point
deriving Repr, DecidableEq

namespace Gestures

/-- A fresh tracker; interval and divisors below one count as one. -/
def ofConfig (c : Config) : Gestures :=
  ⟨max c.gestureInterval 1, max c.headTurnDivisor.toInt 1, max c.mouthOpenDivisor.toInt 1, 0, none⟩

/-- Forgets the nose and restarts the sampling cycle. -/
def reset (g : Gestures) : Gestures := { g with count := 0, previousNose := none }

def observe (g : Gestures) (face : Face) : GestureEvents × Gestures :=
  match face.landmarks with
  | none => (⟨false, false⟩, g)
  | some l =>
    let nose := l.get Landmarks.noseBottom
    let next := { g with count := g.count + 1, previousNose := some nose }
    if g.count % g.interval = 0 then
      let headTurn :=
        match g.previousNose with
        | some prev =>
          decide (((nose.x.toInt - prev.x.toInt).natAbs : Int) > face.rect.width.tdiv g.headTurnDivisor)
        | none => false
      let mouthOpen := decide (l.mouthGap > face.rect.height.tdiv g.mouthOpenDivisor)
      (⟨headTurn, mouthOpen⟩, next)
    else (⟨false, false⟩, next)

end Gestures

end CameraOverlay
