import CameraOverlay.Session
import CameraOverlay.Assets
import CameraOverlay.Detector
import CameraOverlay.Stats
import CameraOverlay.Frame.Format
import CameraOverlay.Face.Mapping
import CameraOverlay.Composite.Blit
import CameraOverlay.Composite.Marker
/-!
# The per-frame pipeline

`Overlay.process` handles one preview frame and applies at most one overlay:

* a frame in an unsupported layout is rejected and left alone;
* in idle mode the frame passes through;
* in filter mode the filter of the mode's id is applied;
* in sticker mode the detector is asked once. A failure leaves the frame alone. Otherwise the
  first face goes to the gesture tracker, which may switch or end the sticker; then, if a
  sticker is still shown and faces were found, the sticker is drawn on every face that has
  landmarks, in order. A sprite placement is centred on its landmark moved by its offset (with
  saturation) and mapped to the frame; a placement whose image is missing is skipped.

The answer tells what was applied, whether a capture was requested on this frame (the request
is taken from the session, so it is reported once), which mode change the gestures caused, and
the events for the log.
-/

namespace CameraOverlay

inductive Applied where
  | passedThrough
  | rejected
  | composited (sticker faces : Nat)
  | filtered (filter : Nat)
deriving Repr, DecidableEq

/-- One processed frame: the answer, and the session, frame and detector state after it. -/
structure Processed (σ : Type) where
  applied : Applied
  captureRequested : Bool
  /-- The mode change that gestures caused on this frame. -/
  transition : Option Transition
  /-- What the frame reports to the log, in order. -/
  events : List Event
  session : Session
  frame : Frame
  detector : σ

/-- The compositor: sticker images and the landmark marker. -/
structure Overlay where
  assets : AssetStore
  marker : Marker

namespace Overlay

def new (assets : AssetStore) (c : Config) : Overlay := ⟨assets, ⟨c.markerSize⟩⟩

variable (p : Overlay)

/-- Draws one sticker on the face with these landmarks. -/
def drawOn (mapper : Mapper) (drawing : Drawing) (f : Frame) (l : Landmarks) : Frame :=
  match drawing with
  | .sprites placements key =>
    placements.foldl (fun fr pl =>
      match p.assets.get? pl.asset, l.part? pl.landmark with
      | some sprite, some pt =>
        let a := mapper.toFrame (pt.offset pl.dx pl.dy)
        fr.composite key sprite a.x.toInt a.y.toInt
      | _, _ => fr) f
  | .landmarkMarkers => f.drawMarkers p.marker ((mapper.allAnchors l).map Point.toInts)

/-- Draws a sticker on every face that has landmarks; answers how many faces it drew on. -/
def drawSticker (spec : StickerSpec) (f : Frame) (faces : List Face) : Frame × Nat :=
  let mapper := Mapper.ofHeight f.height
  (faces.filterMap (·.landmarks)).foldl
    (fun (fr, n) l => (p.drawOn mapper spec.drawing fr l, n + 1)) (f, 0)

def untouched (applied : Applied) (s : Session) (f : Frame) (ds : σ) : Processed σ :=
  ⟨applied, false, none, [], s, f, ds⟩

/-- Filter mode: applies the filter of the id, if the catalog has one. -/
def filterFrame (s : Session) (f : Frame) (id : Nat) (ds : σ) : Processed σ :=
  match FilterSpec.byId? id with
  | some spec => ⟨.filtered id, false, none, [.timing "filter"], s, f.applyFilter spec.preset, ds⟩
  | none => untouched .passedThrough s f ds

/-- Sticker mode: asks the detector, feeds the first face to the gestures, draws. -/
def compositeFrame (s : Session) (f : Frame) (d : Detect σ) (ds : σ) : Processed σ :=
  match d ds with
  | (.error _, ds') => untouched .passedThrough s f ds'
  | (.ok faces, ds') =>
    let events := [Event.timing "detect", .metric "faces" (Float.ofNat faces.length)]
    let (t, s') :=
      match faces with
      | first :: _ => s.observeGestures first
      | [] => (none, s)
    let passed : Processed σ := ⟨.passedThrough, false, t, events, s', f, ds'⟩
    match s'.mode with
    | .sticker id =>
      match StickerSpec.byId? id with
      | some spec =>
        if faces.isEmpty then passed
        else
          let (f', drawn) := p.drawSticker spec f faces
          ⟨if drawn = 0 then .passedThrough else .composited id drawn, false, t,
            events ++ [.timing "composite"], s', f', ds'⟩
      | none => passed
    | _ => passed

/-- Processes one frame with the session's current mode; see the module comment. -/
def process (s : Session) (f : Frame) (format : PixelFormat) (d : Detect σ) (ds : σ) :
    Processed σ :=
  let r :=
    if format.isSupported then
      match s.mode with
      | .idle => untouched .passedThrough s f ds
      | .filter id => filterFrame s f id ds
      | .sticker _ => p.compositeFrame s f d ds
    else untouched .rejected s f ds
  let (capture, s') := r.session.takeCapture
  { r with captureRequested := capture, session := s' }

def setAssets (a : AssetStore) : Overlay := { p with assets := a }

end Overlay

end CameraOverlay
