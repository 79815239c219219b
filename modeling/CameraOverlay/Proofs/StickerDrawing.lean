import CameraOverlay.Proofs.FrameProcessing
/-!
# What a sticker frame draws

In sticker mode a frame on which the detector finds faces goes through three steps: the first
face goes to the gestures, which may move to another sticker or end stickers; then, if a sticker
is still shown, it is drawn on every face that has landmarks, in order. A face's sticker is
either a list of sprite placements, composited in order at anchors computed from the face's
landmarks, a placement whose image the store lacks being skipped, or the landmark markers.

`Overlay.stickerOn` states one face's drawing with the anchor arithmetic written out: landmark
point `q` moved by the placement's offset and turned onto a frame of height `H` lands at
`(q.y + dy, H - (q.x + dx))`, every step saturating in 32 bits. `sticker_frame_drawn` puts the
three steps together for every session the app reaches.
-/

namespace CameraOverlay

/-- Where a placement's sprite is centred for landmark point `q` on a frame of height `H`. -/
def Placement.anchorOn (pl : Placement) (H : Nat) (q : Point) : Int × Int :=
  ((satAdd q.y pl.dy).toInt, (satSub (Int32.ofInt H) (satAdd q.x pl.dx)).toInt)

/-- The landmark sets of the faces that have them, in order. -/
def landmarkSets (faces : List Face) : List Landmarks := faces.filterMap (·.landmarks)

namespace Overlay

variable (p : Overlay)

/-- A sticker drawn on the face with landmarks `l` of a frame of height `H`. -/
def stickerOn (H : Nat) : Drawing → Frame → Landmarks → Frame
  | .sprites placements key, fr, l =>
    placements.foldl (fun fr pl =>
      match p.assets.get? pl.asset, l.part? pl.landmark with
      | some sprite, some q => fr.composite key sprite (pl.anchorOn H q).1 (pl.anchorOn H q).2
      | _, _ => fr) fr
  | .landmarkMarkers, fr, l =>
    fr.drawMarkers p.marker
      (l.points.toList.map fun q => (q.y.toInt, (satSub (Int32.ofInt H) q.x).toInt))

theorem drawOn_ofHeight (H : Nat) (drawing : Drawing) :
    p.drawOn (Mapper.ofHeight H) drawing = p.stickerOn H drawing := by
  funext fr l
  cases drawing with
  | sprites placements key => rfl
  | landmarkMarkers =>
    simp only [drawOn, stickerOn, Mapper.allAnchors, List.map_map]
    rfl

variable {σ : Type} {s : Session} {f : Frame} {d : Detect σ} {ds ds' : σ} {first : Face}
  {rest : List Face}

theorem compositeFrame_of_faces (hd : d ds = (.ok (first :: rest), ds')) :
    let r := p.compositeFrame s f d ds
    (∀ id spec, (s.observeGestures first).2.mode = .sticker id →
      StickerSpec.byId? id = some spec →
      r.frame = (p.drawSticker spec f (first :: rest)).1 ∧
        r.applied = if (p.drawSticker spec f (first :: rest)).2 = 0 then .passedThrough
          else .composited id (p.drawSticker spec f (first :: rest)).2) ∧
    ((s.observeGestures first).2.mode.isSticker = false →
      r.applied = .passedThrough ∧ r.frame = f) := by
  intro r
  refine ⟨fun id spec hmode hspec => ?_, fun hmode => ?_⟩
  · simp only [r, compositeFrame, hd, hmode, hspec, List.isEmpty_cons]
    exact ⟨rfl, rfl⟩
  · -- the gestures ended stickers: the frame is passed through
    simp only [r, compositeFrame, hd]
    split
    · next id hst => simp [hst, Mode.isSticker] at hmode
    · exact ⟨rfl, rfl⟩

end Overlay

/-- In sticker mode, on a frame where faces are found, the sticker the gestures leave is drawn on
every face with landmarks; otherwise the frame passes through. -/
theorem sticker_frame_drawn {s : Session} (hs : s.Driven) {id0 : Nat} (hmode : s.mode = .sticker id0)
    (p : Overlay) (f : Frame) {format : PixelFormat} (hformat : format.isSupported = true)
    {σ : Type} (d : Detect σ) (ds ds' : σ) (first : Face) (rest : List Face)
    (hd : d ds = (.ok (first :: rest), ds')) :
    let r := p.process s f format d ds
    let faces := landmarkSets (first :: rest)
    (∀ id, (s.observeGestures first).2.mode = .sticker id →
      ∃ spec, StickerSpec.byId? id = some spec ∧
        r.frame = faces.foldl (p.stickerOn f.height spec.drawing) f ∧
        r.applied = if faces.length = 0 then .passedThrough else .composited id faces.length) ∧
    ((s.observeGestures first).2.mode.isSticker = false →
      r.applied = .passedThrough ∧ r.frame = f) := by
  intro r faces
  obtain ⟨hdrawn, hended⟩ := p.compositeFrame_of_faces (s := s) (f := f) hd
  have hprocess : r.frame = (p.compositeFrame s f d ds).frame ∧
      r.applied = (p.compositeFrame s f d ds).applied := by
    simp [r, p.process_of_sticker hformat hmode]
  refine ⟨fun id hst => ?_, fun hst => ?_⟩
  · -- the session after the gestures keeps the invariant, so its sticker is in the catalog
    have hv := (hs.invariant.observeGestures first).modeValid
    rw [hst] at hv
    obtain ⟨spec, hspec⟩ := hv.stickerSpec
    obtain ⟨hframe, happlied⟩ := hdrawn id spec hst hspec
    have hsticker := p.drawSticker_eq spec f (first :: rest)
    rw [p.drawOn_ofHeight] at hsticker
    refine ⟨spec, hspec, ?_, ?_⟩
    · rw [hprocess.1, hframe, hsticker]
      rfl
    · rw [hprocess.2, happlied, hsticker]
      rfl
  · obtain ⟨happlied, hframe⟩ := hended hst
    exact ⟨hprocess.2.trans happlied, hprocess.1.trans hframe⟩

/-- A face with an empty box whose 68 landmarks all lie at the origin. -/
def originFace : Face := ⟨⟨0, 0, 0, 0⟩, some ⟨Array.replicate 68 ⟨0, 0⟩, by simp [landmarkCount]⟩⟩

theorem sticker_frame_drawn_first_sticker :
    let s := ((Session.new true {}).apply .advanceSticker).2
    let p := Overlay.new .empty {}
    let ds := Replay.fixed [originFace]
    s.Driven ∧ s.mode = .sticker 1 ∧ PixelFormat.nv12.isSupported = true ∧
    Replay.detect ds = (.ok [originFace], (Replay.detect ds).2) ∧
    let r := p.process s greyFrame .nv12 Replay.detect ds
    let faces := landmarkSets [originFace]
    (∀ id, (s.observeGestures originFace).2.mode = .sticker id →
      ∃ spec, StickerSpec.byId? id = some spec ∧
        r.frame = faces.foldl (p.stickerOn greyFrame.height spec.drawing) greyFrame ∧
        r.applied = if faces.length = 0 then .passedThrough else .composited id faces.length) ∧
    ((s.observeGestures originFace).2.mode.isSticker = false →
      r.applied = .passedThrough ∧ r.frame = greyFrame) :=
  have h : ((Session.new true {}).apply .advanceSticker).2.Driven := .control (.new true {}) _
  ⟨h, rfl, rfl, rfl,
    sticker_frame_drawn h rfl (Overlay.new .empty {}) greyFrame rfl Replay.detect
      (Replay.fixed [originFace]) _ originFace [] rfl⟩

end CameraOverlay
