/-!
# Overlay modes and their transitions

At any moment the overlay is idle, shows one sticker, or applies one colour filter. A mode
change is reported as a `Transition` from the old mode to the new one; its `detection` field
tells the camera whether live face detection, which only stickers need, has to start, stop or
stay as it is.
-/

namespace CameraOverlay

/-- What the overlay does to each frame. -/
inductive Mode where
  | idle
  | sticker (id : Nat)
  | filter (id : Nat)
deriving Repr, DecidableEq, Inhabited

namespace Mode

def isSticker : Mode → Bool
  | sticker _ => true
  | _ => false

def isFilter : Mode → Bool
  | filter _ => true
  | _ => false

end Mode

/-- What a mode change asks of face detection. -/
inductive DetectionControl where
  | start
  | stop
  | unchanged
deriving Repr, DecidableEq

/-- A change of mode, possibly to the same mode. -/
structure Transition where
  before : Mode
  after : Mode
deriving Repr, DecidableEq

namespace Transition

def between (before after : Mode) : Transition := ⟨before, after⟩

def stay (m : Mode) : Transition := between m m

/-- Detection starts when a sticker comes and stops when the last sticker goes. -/
def detection (t : Transition) : DetectionControl :=
  match t.before.isSticker, t.after.isSticker with
  | false, true => .start
  | true, false => .stop
  | _, _ => .unchanged

def changed (t : Transition) : Bool := t.before != t.after

end Transition

end CameraOverlay
