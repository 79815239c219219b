import CameraOverlay.Pipeline
import CameraOverlay.Proofs.SessionInvariant
/-!
# What processing one frame does

`Overlay.process` takes one path by the frame's layout and the session's mode, and on every path
it ends by taking the capture request. Only sticker mode asks the detector, and only there can
the session change: the first face found goes to the gestures (`Session.afterDetection`). The
path lemmas `process_of_unsupported`, `process_of_idle`, `process_of_filter` and
`process_of_sticker` say what each path answers; `process_session_effect` says once what a frame
does to the session, through `Session.frameEffect`.

The app reaches a session from a fresh one by its controls and by processed frames
(`Session.Driven`); nothing else feeds the gestures. Such a session never holds a capture
request, so a frame that gestures do not act on leaves it as it was, and a capture is reported on
exactly the frame whose gesture sample saw an open mouth.
-/

namespace CameraOverlay

/-- What a detector's answer does to a session in sticker mode. -/
def Session.afterDetection (s : Session) : Detection → Option Transition × Session
  | .ok (first :: _) => s.observeGestures first
  | _ => (none, s)

/-- What a frame does to a session before its capture request is taken. -/
def Session.frameEffect (s : Session) (format : PixelFormat) (answer : Detection) :
    Option Transition × Session :=
  if format.isSupported && s.mode.isSticker then s.afterDetection answer else (none, s)

namespace Overlay

variable (p : Overlay) {σ : Type}

theorem drawSticker_eq (spec : StickerSpec) (f : Frame) (faces : List Face) :
    p.drawSticker spec f faces =
      ((faces.filterMap (·.landmarks)).foldl (p.drawOn (Mapper.ofHeight f.height) spec.drawing) f,
        (faces.filterMap (·.landmarks)).length) := by
  unfold drawSticker
  generalize Mapper.ofHeight f.height = mapper
  generalize faces.filterMap (·.landmarks) = ls
  suffices h : ∀ (fr : Frame) (n : Nat),
      ls.foldl (fun acc l => (p.drawOn mapper spec.drawing acc.1 l, acc.2 + 1)) (fr, n) =
        (ls.foldl (p.drawOn mapper spec.drawing) fr, n + ls.length) by
    simpa using h f 0
  induction ls with
  | nil => intro fr n; rfl
  | cons l ls ih =>
    intro fr n
    rw [List.foldl_cons, List.foldl_cons, ih, List.length_cons]
    simp only [Prod.mk.injEq, true_and]
    omega

theorem drawSticker_fst_of_snd_eq_zero {spec : StickerSpec} {f : Frame} {faces : List Face}
    (h : (p.drawSticker spec f faces).2 = 0) : (p.drawSticker spec f faces).1 = f := by
  rw [drawSticker_eq] at h ⊢
  rw [List.length_eq_zero_iff.1 h]
  rfl

variable {s : Session} {f : Frame} {d : Detect σ} {ds ds' : σ}

theorem compositeFrame_of_error {e : DetectorError} (h : d ds = (.error e, ds')) :
    p.compositeFrame s f d ds = untouched .passedThrough s f ds' := by
  simp only [compositeFrame, h]

theorem compositeFrame_of_ok {faces : List Face} (h : d ds = (.ok faces, ds')) :
    let r := p.compositeFrame s f d ds
    (r.transition, r.session) = s.afterDetection (.ok faces) ∧ r.captureRequested = false ∧
      r.detector = ds' ∧
      ((r.applied = .passedThrough ∧ r.frame = f) ∨
        ∃ spec sticker n, r.applied = .composited sticker n ∧
          r.frame = (p.drawSticker spec f faces).1) := by
  intro r
  simp only [r, compositeFrame, h]
  cases faces with
  | nil =>
    simp only [Session.afterDetection, List.isEmpty_nil, if_true]
    split
    · split <;> simp
    · simp
  | cons first rest =>
    simp only [Session.afterDetection, List.isEmpty_cons]
    obtain ⟨t, s'⟩ := s.observeGestures first
    split
    · split
      · next _ id _ _ spec _ =>
        refine ⟨rfl, rfl, rfl, ?_⟩
        by_cases h0 : (p.drawSticker spec f (first :: rest)).2 = 0
        · exact .inl ⟨by simp [h0], p.drawSticker_fst_of_snd_eq_zero h0⟩
        · exact .inr ⟨spec, id, (p.drawSticker spec f (first :: rest)).2, by simp [h0], rfl⟩
      · simp
    · simp

/-- Sticker mode asks the detector once, then passes the frame through or draws on it. -/
theorem compositeFrame_spec (s : Session) (f : Frame) (d : Detect σ) (ds : σ) :
    let r := p.compositeFrame s f d ds
    (r.transition, r.session) = s.afterDetection (d ds).1 ∧ r.captureRequested = false ∧
      r.detector = (d ds).2 ∧
      ((r.applied = .passedThrough ∧ r.frame = f) ∨
        ∃ spec faces sticker n, r.applied = .composited sticker n ∧
          r.frame = (p.drawSticker spec f faces).1) := by
  intro r
  rcases hd : d ds with ⟨e | faces, ds'⟩
  · simp [r, p.compositeFrame_of_error hd, untouched, Session.afterDetection]
  · obtain ⟨hts, hcap, hdet, hframe⟩ := p.compositeFrame_of_ok (s := s) (f := f) hd
    refine ⟨hts, hcap, hdet, ?_⟩
    rcases hframe with hpass | ⟨spec, sticker, n, happ, hfr⟩
    · exact .inl hpass
    · exact .inr ⟨spec, faces, sticker, n, happ, hfr⟩

variable {format : PixelFormat}

theorem process_of_unsupported (h : format.isSupported = false) :
    p.process s f format d ds =
      ⟨.rejected, s.captureRequested, none, [], s.takeCapture.2, f, ds⟩ := by
  simp [process, h, untouched, Session.takeCapture]

theorem process_of_idle (h : format.isSupported = true) (hm : s.mode = .idle) :
    p.process s f format d ds =
      ⟨.passedThrough, s.captureRequested, none, [], s.takeCapture.2, f, ds⟩ := by
  simp [process, h, hm, untouched, Session.takeCapture]

theorem process_of_filter {id : Nat} {spec : FilterSpec} (h : format.isSupported = true)
    (hm : s.mode = .filter id) (hs : FilterSpec.byId? id = some spec) :
    p.process s f format d ds =
      ⟨.filtered id, s.captureRequested, none, [.timing "filter"], s.takeCapture.2,
        f.applyFilter spec.preset, ds⟩ := by
  simp [process, h, hm, filterFrame, hs, Session.takeCapture]

theorem process_of_unknown_filter {id : Nat} (h : format.isSupported = true)
    (hm : s.mode = .filter id) (hs : FilterSpec.byId? id = none) :
    p.process s f format d ds =
      ⟨.passedThrough, s.captureRequested, none, [], s.takeCapture.2, f, ds⟩ := by
  simp [process, h, hm, filterFrame, hs, untouched, Session.takeCapture]

theorem process_of_sticker {id : Nat} (h : format.isSupported = true)
    (hm : s.mode = .sticker id) :
    p.process s f format d ds =
      let r := p.compositeFrame s f d ds
      { r with captureRequested := r.session.captureRequested,
               session := r.session.takeCapture.2 } := by
  simp [process, h, hm, Session.takeCapture]

theorem process_session_effect (s : Session) (f : Frame) (format : PixelFormat) (d : Detect σ)
    (ds : σ) :
    let r := p.process s f format d ds
    let e := s.frameEffect format (d ds).1
    r.transition = e.1 ∧ r.captureRequested = e.2.captureRequested ∧
      r.session = e.2.takeCapture.2 := by
  intro r e
  cases hf : format.isSupported with
  | false => simp [r, e, p.process_of_unsupported hf, Session.frameEffect, hf]
  | true =>
    cases hm : s.mode with
    | idle => simp [r, e, p.process_of_idle hf hm, Session.frameEffect, hm, Mode.isSticker]
    | filter id =>
      cases hs : FilterSpec.byId? id with
      | none =>
        simp [r, e, p.process_of_unknown_filter hf hm hs, Session.frameEffect, hm, Mode.isSticker]
      | some spec =>
        simp [r, e, p.process_of_filter hf hm hs, Session.frameEffect, hm, Mode.isSticker]
    | sticker id =>
      have heff : e = s.afterDetection (d ds).1 := by
        simp [e, Session.frameEffect, hf, hm, Mode.isSticker]
      obtain ⟨hts, -⟩ := p.compositeFrame_spec s f d ds
      simp only [Prod.ext_iff] at hts
      simp [r, heff, p.process_of_sticker hf hm, hts.1, hts.2]

theorem process_frame_of_passedThrough (s : Session) (f : Frame) (format : PixelFormat)
    (d : Detect σ) (ds : σ)
    (h : (p.process s f format d ds).applied = .passedThrough ∨
      (p.process s f format d ds).applied = .rejected) :
    (p.process s f format d ds).frame = f := by
  cases hf : format.isSupported with
  | false => simp [p.process_of_unsupported hf]
  | true =>
    cases hm : s.mode with
    | idle => simp [p.process_of_idle hf hm]
    | filter id =>
      cases hs : FilterSpec.byId? id with
      | none => simp [p.process_of_unknown_filter hf hm hs]
      | some spec => simp [p.process_of_filter hf hm hs] at h
    | sticker id =>
      rw [p.process_of_sticker hf hm] at h ⊢
      obtain ⟨-, -, -, hpass | ⟨spec, faces, sticker, n, happ, -⟩⟩ := p.compositeFrame_spec s f d ds
      · exact hpass.2
      · simp [happ] at h

end Overlay

namespace Session

variable {s : Session}

@[simp] theorem setMode_captureRequested (m : Mode) :
    (s.setMode m).2.captureRequested = s.captureRequested := rfl

theorem takeCapture_of_not_requested (h : s.captureRequested = false) :
    s.takeCapture = (false, s) := by
  cases s
  simp_all [takeCapture]

theorem watching_eq_true : s.watching = true ↔ s.motion = true ∧ ∃ id, s.mode = .sticker id := by
  unfold watching
  cases s.mode <;> simp [Mode.isSticker]

theorem apply_captureRequested (c : Control) :
    (s.apply c).2.captureRequested = (s.captureRequested && c != .takeCapture) := by
  cases c with
  | advanceSticker =>
    simp only [apply, advanceSticker]
    split <;> simp
  | advanceFilter => simp [apply, advanceFilter]
  | toggleMotion => simp [apply, toggleMotion]
  | takeCapture => simp [apply, takeCapture]
  | markReady => simp [apply, markReady]

theorem observeGestures_captureRequested (face : Face) :
    (s.observeGestures face).2.captureRequested =
      (s.captureRequested || (s.watching && (s.gestures.observe face).1.mouthOpen)) := by
  cases hw : s.watching with
  | false => simp [s.observeGestures_snd_of_not_watching hw]
  | true =>
    obtain ⟨hmotion, id, hmode⟩ := watching_eq_true.1 hw
    rcases hobs : s.gestures.observe face with ⟨ev, g⟩
    rw [s.observeGestures_snd_of_watching hmode hmotion hobs]
    split <;> simp

theorem afterDetection_captureRequested (answer : Detection) :
    (s.afterDetection answer).2.captureRequested = true ↔
      s.captureRequested = true ∨
        (s.watching = true ∧ ∃ first rest, answer = .ok (first :: rest) ∧
          (s.gestures.observe first).1.mouthOpen = true) := by
  rcases answer with e | _ | ⟨first, rest⟩
  · simp [afterDetection]
  · simp [afterDetection]
  · simp [afterDetection, observeGestures_captureRequested]

theorem Invariant.afterDetection (h : s.Invariant) (answer : Detection) :
    (s.afterDetection answer).2.Invariant := by
  rcases answer with e | _ | ⟨first, rest⟩
  · exact h
  · exact h
  · exact h.observeGestures first

theorem Invariant.frameEffect (h : s.Invariant) (format : PixelFormat) (answer : Detection) :
    (s.frameEffect format answer).2.Invariant := by
  unfold Session.frameEffect
  split
  · exact h.afterDetection answer
  · exact h

/-- The sessions the app reaches: from a fresh one, by controls and processed frames. -/
inductive Driven : Session → Prop
  | new (ready : Bool) (c : Config) : Driven (Session.new ready c)
  | control {s : Session} (h : Driven s) (c : Control) : Driven (s.apply c).2
  | frame {s : Session} {σ : Type} (h : Driven s) (p : Overlay) (f : Frame)
      (format : PixelFormat) (d : Detect σ) (ds : σ) : Driven (p.process s f format d ds).session

/-- Between calls, no capture request is pending. -/
theorem Driven.captureRequested (h : s.Driven) : s.captureRequested = false := by
  induction h with
  | new => rfl
  | control _ c ih => simp [apply_captureRequested, ih]
  | frame _ p f format d ds =>
    obtain ⟨-, -, hsession⟩ := p.process_session_effect _ f format d ds
    rw [hsession]
    rfl

theorem Driven.invariant (h : s.Driven) : s.Invariant := by
  induction h with
  | new ready c => exact invariant_new ready c
  | control _ c ih => exact ih.apply c
  | frame _ p f format d ds ih =>
    obtain ⟨-, -, hsession⟩ := p.process_session_effect _ f format d ds
    rw [hsession]
    exact (ih.frameEffect format _).takeCapture

end Session

/-- On a session the app reaches, a frame takes one path by its layout and the mode, and applies
at most one of a filter and a sticker. -/
theorem process_paths {s : Session} (hs : s.Driven) (p : Overlay) (f : Frame)
    (format : PixelFormat) {σ : Type} (d : Detect σ) (ds : σ) :
    let r := p.process s f format d ds
    (format.isSupported = false →
      r.applied = .rejected ∧ r.frame = f ∧ r.detector = ds ∧ r.session = s) ∧
    (format.isSupported = true → s.mode = .idle →
      r.applied = .passedThrough ∧ r.frame = f ∧ r.detector = ds ∧ r.session = s) ∧
    (∀ id, format.isSupported = true → s.mode = .filter id →
      ∃ spec, FilterSpec.byId? id = some spec ∧ r.applied = .filtered id ∧
        r.frame = f.applyFilter spec.preset ∧ r.detector = ds ∧ r.session = s) ∧
    (∀ id, format.isSupported = true → s.mode = .sticker id →
      r.detector = (d ds).2 ∧
        (r.frame = f ∨ ∃ spec faces, r.frame = (p.drawSticker spec f faces).1) ∧
        ∀ e, (d ds).1 = .error e → r.applied = .passedThrough ∧ r.frame = f ∧ r.session = s) ∧
    (r.applied = .passedThrough ∨ r.applied = .rejected → r.frame = f) := by
  intro r
  have htake := Session.takeCapture_of_not_requested hs.captureRequested
  refine ⟨fun hf => ?_, fun hf hm => ?_, fun id hf hm => ?_, fun id hf hm => ?_,
    p.process_frame_of_passedThrough s f format d ds⟩
  · simp [r, p.process_of_unsupported hf, htake]
  · simp [r, p.process_of_idle hf hm, htake]
  · -- the invariant makes the filter id a catalog entry
    have hv := hs.invariant.modeValid
    rw [hm] at hv
    obtain ⟨spec, hspec⟩ := hv.filterSpec
    exact ⟨spec, hspec, by simp [r, p.process_of_filter hf hm hspec, htake]⟩
  · simp only [r, p.process_of_sticker hf hm]
    obtain ⟨-, -, hdet, hframe⟩ := p.compositeFrame_spec s f d ds
    refine ⟨hdet, ?_, fun e he => ?_⟩
    · rcases hframe with ⟨-, hfr⟩ | ⟨spec, faces, -, -, -, hfr⟩
      · exact .inl hfr
      · exact .inr ⟨spec, faces, hfr⟩
    · have hd : d ds = (.error e, (d ds).2) := Prod.ext he rfl
      simp [p.compositeFrame_of_error hd, Overlay.untouched, htake]

/-- A grey frame of one 2x2 block. -/
def greyFrame : Frame := ⟨2, 2, #[100, 100, 100, 100], #[128, 128], by decide, rfl, rfl⟩

theorem process_paths_failing_detector :
    let s := ((Session.new true {}).apply .advanceSticker).2
    let d := Faulty.detect Replay.detect
    let ds : Faulty Replay := ⟨[0], 0, Replay.fixed []⟩
    s.Driven ∧ s.mode = .sticker 1 ∧ (d ds).1 = .error .failed ∧
    let p := Overlay.new .empty {}
    let f := greyFrame
    let format := PixelFormat.nv12
    let r := p.process s f format d ds
    (format.isSupported = false →
      r.applied = .rejected ∧ r.frame = f ∧ r.detector = ds ∧ r.session = s) ∧
    (format.isSupported = true → s.mode = .idle →
      r.applied = .passedThrough ∧ r.frame = f ∧ r.detector = ds ∧ r.session = s) ∧
    (∀ id, format.isSupported = true → s.mode = .filter id →
      ∃ spec, FilterSpec.byId? id = some spec ∧ r.applied = .filtered id ∧
        r.frame = f.applyFilter spec.preset ∧ r.detector = ds ∧ r.session = s) ∧
    (∀ id, format.isSupported = true → s.mode = .sticker id →
      r.detector = (d ds).2 ∧
        (r.frame = f ∨ ∃ spec faces, r.frame = (p.drawSticker spec f faces).1) ∧
        ∀ e, (d ds).1 = .error e → r.applied = .passedThrough ∧ r.frame = f ∧ r.session = s) ∧
    (r.applied = .passedThrough ∨ r.applied = .rejected → r.frame = f) :=
  have h : ((Session.new true {}).apply .advanceSticker).2.Driven := .control (.new true {}) _
  ⟨h, rfl, rfl, process_paths h (.new .empty {}) greyFrame .nv12 (Faulty.detect Replay.detect)
    ⟨[0], 0, Replay.fixed []⟩⟩

/-- A frame reports a capture exactly when its gestures saw an open mouth, and the request is
taken with the report. -/
theorem capture_reported_by_its_frame {s : Session} (hs : s.Driven) :
    s.captureRequested = false ∧ s.takeCapture = (false, s) ∧
    ∀ (p : Overlay) (f : Frame) (format : PixelFormat) {σ : Type} (d : Detect σ) (ds : σ),
      ((p.process s f format d ds).captureRequested = true ↔
        format.isSupported = true ∧ s.motion = true ∧ s.mode.isSticker = true ∧
          ∃ first rest, (d ds).1 = .ok (first :: rest) ∧
            (s.gestures.observe first).1.mouthOpen = true) ∧
      (p.process s f format d ds).session.captureRequested = false := by
  have hcap := hs.captureRequested
  refine ⟨hcap, Session.takeCapture_of_not_requested hcap, fun p f format σ d ds => ?_⟩
  obtain ⟨-, hreport, hsession⟩ := p.process_session_effect s f format d ds
  refine ⟨?_, by rw [hsession]; rfl⟩
  rw [hreport]
  unfold Session.frameEffect
  cases hf : format.isSupported with
  | false => simp [hcap]
  | true =>
    cases hst : s.mode.isSticker with
    | false => simp [hcap]
    | true =>
      simp [Session.afterDetection_captureRequested, hcap, Session.watching, hst]

theorem capture_reported_by_its_frame_after_motion :
    let s := (((Session.new true {}).apply .advanceSticker).2.apply .toggleMotion).2
    s.Driven ∧
    s.captureRequested = false ∧ s.takeCapture = (false, s) ∧
    ∀ (p : Overlay) (f : Frame) (format : PixelFormat) {σ : Type} (d : Detect σ) (ds : σ),
      ((p.process s f format d ds).captureRequested = true ↔
        format.isSupported = true ∧ s.motion = true ∧ s.mode.isSticker = true ∧
          ∃ first rest, (d ds).1 = .ok (first :: rest) ∧
            (s.gestures.observe first).1.mouthOpen = true) ∧
      (p.process s f format d ds).session.captureRequested = false :=
  have h : (((Session.new true {}).apply .advanceSticker).2.apply .toggleMotion).2.Driven :=
    .control (.control (.new true {}) _) _
  ⟨h, capture_reported_by_its_frame h⟩

end CameraOverlay
