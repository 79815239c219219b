import CameraOverlay.Mode
import CameraOverlay.Gesture
import CameraOverlay.Catalog
import CameraOverlay.Filter
/-!
# The overlay session

A session holds the current mode, whether motion mode (gesture control) is on, whether the
landmark model has loaded, the gesture tracker and a pending capture request. The buttons of the
camera act on it:

* the sticker button moves to the next sticker, and from the last one back to idle; from idle or
  a filter it goes to the first sticker. It does nothing until the landmark model is ready;
* the filter button does the same over the filters, and switches motion mode off;
* the motion button flips motion mode, which stays off while a filter is shown;
* taking the capture request reads and clears it.

While a sticker is shown with motion mode on, the first detected face of each frame is fed to the
gesture tracker: a head turn advances the sticker like the button, an open mouth requests a
capture. The tracker starts afresh whenever motion mode is toggled or a non-sticker mode begins.
-/

namespace CameraOverlay

structure Session where
  mode : Mode
  motion : Bool
  ready : Bool
  gestures : Gestures
  captureRequested : Bool
deriving Repr, DecidableEq

/-- The mode of a sticker id, id `0` being idle. -/
def Mode.ofSticker (id : Nat) : Mode := if id = 0 then .idle else .sticker id

/-- The mode of a filter id, id `0` being idle. -/
def Mode.ofFilter (id : Nat) : Mode := if id = 0 then .idle else .filter id

namespace Session

/-- A fresh session: idle, motion off, no capture pending. -/
def new (ready : Bool) (c : Config) : Session :=
  ⟨.idle, false, ready, Gestures.ofConfig c, false⟩

variable (s : Session)

/-- Changes the mode; the gesture tracker starts afresh unless the new mode is a sticker. -/
def setMode (m : Mode) : Transition × Session :=
  (Transition.between s.mode m,
   { s with mode := m, gestures := if m.isSticker then s.gestures else s.gestures.reset })

/-- The sticker that follows the current mode. -/
def nextSticker : Nat :=
  match s.mode with
  | .sticker id => (id + 1) % StickerSpec.slots
  | _ => 1

/-- The filter that follows the current mode. -/
def nextFilter : Nat :=
  match s.mode with
  | .filter id => (id + 1) % FilterSpec.slots
  | _ => 1

/-- The sticker button; ignored while the landmark model is not ready. -/
def advanceSticker : Transition × Session :=
  if s.ready then s.setMode (.ofSticker s.nextSticker) else (.stay s.mode, s)

/-- The filter button; it also switches motion mode off. -/
def advanceFilter : Transition × Session :=
  { s with motion := false }.setMode (.ofFilter s.nextFilter)

/-- The motion button; answers the new setting. -/
def toggleMotion : Bool × Session :=
  let motion := if s.mode.isFilter then false else !s.motion
  (motion, { s with motion := motion, gestures := s.gestures.reset })

/-- Reads and clears the capture request. -/
def takeCapture : Bool × Session := (s.captureRequested, { s with captureRequested := false })

def markReady : Session := { s with ready := true }

/-- Feeds the first face of a frame to the gesture tracker, in sticker mode with motion on. -/
def observeGestures (face : Face) : Option Transition × Session :=
  match s.mode with
  | .sticker id =>
    if s.motion then
      let (ev, g) := s.gestures.observe face
      let s' := { s with gestures := g, captureRequested := s.captureRequested || ev.mouthOpen }
      if ev.headTurn then
        let (t, s'') := s'.setMode (.ofSticker ((id + 1) % StickerSpec.slots))
        (some t, s'')
      else (none, s')
    else (none, s)
  | _ => (none, s)

end Session

/-- A button or event that acts on a session from outside the frame loop. -/
inductive Control where
  | advanceSticker
  | advanceFilter
  | toggleMotion
  | takeCapture
  | markReady
deriving Repr, DecidableEq

inductive ControlReply where
  | transition (t : Transition)
  | toggled (motion : Bool)
  | capture (requested : Bool)
  | done
deriving Repr, DecidableEq

def Session.apply (s : Session) : Control → ControlReply × Session
  | .advanceSticker => let (t, s') := s.advanceSticker; (.transition t, s')
  | .advanceFilter => let (t, s') := s.advanceFilter; (.transition t, s')
  | .toggleMotion => let (m, s') := s.toggleMotion; (.toggled m, s')
  | .takeCapture => let (c, s') := s.takeCapture; (.capture c, s')
  | .markReady => (.done, s.markReady)

end CameraOverlay
