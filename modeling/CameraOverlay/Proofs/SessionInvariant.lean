import CameraOverlay.Session
/-!
# What every reachable session satisfies

A session changes through the buttons (`Control`, readiness of the landmark model included) and
through the first face of each sticker frame, which the frame pipeline feeds to the gestures.
Every session reached from `Session.new` this way keeps four facts together
(`Session.Invariant`): its mode names an entry of the sticker or filter catalog, motion mode is
off under a filter, a sticker is shown only once the landmark model is ready, and the gesture
tracker is fresh unless gestures are being watched. The last one is what makes the first face
seen after stickers or motion mode come on unable to count as a head turn.

Each input gets its own preservation lemma; `Session.Invariant.setMode` carries the three
operations that change the mode.
-/

namespace CameraOverlay

/-- An input that acts on a session: a control, or the first face of a frame. -/
inductive SessionInput where
  | control (c : Control)
  | face (face : Face)

/-- The session after one input. -/
def Session.feed (s : Session) : SessionInput → Session
  | .control c => (s.apply c).2
  | .face face => (s.observeGestures face).2

/-- The sessions reachable from a fresh one, whatever its settings and readiness. -/
inductive Session.Reachable : Session → Prop
  | new (ready : Bool) (c : Config) : Reachable (Session.new ready c)
  | feed {s : Session} (h : Reachable s) (e : SessionInput) : Reachable (s.feed e)

/-- A mode that names a catalog entry: a sticker or filter id from `1` to below the slots. -/
def Mode.Valid : Mode → Prop
  | .idle => True
  | .sticker id => 1 ≤ id ∧ id < StickerSpec.slots
  | .filter id => 1 ≤ id ∧ id < FilterSpec.slots

/-- A tracker that has seen no face since it started. -/
def Gestures.Fresh (g : Gestures) : Prop := g.count = 0 ∧ g.previousNose = none

/-- Gestures are watched while a sticker is shown with motion mode on. -/
def Session.watching (s : Session) : Bool := s.motion && s.mode.isSticker

/-- The facts every reachable session keeps. -/
structure Session.Invariant (s : Session) : Prop where
  modeValid : s.mode.Valid
  motionOffUnderFilter : s.motion = true → s.mode.isFilter = false
  readyForSticker : s.mode.isSticker = true → s.ready = true
  freshUnlessWatching : s.watching = false → s.gestures.Fresh

namespace Mode

theorem valid_ofSticker {n : Nat} (h : n < StickerSpec.slots) : (ofSticker n).Valid := by
  unfold ofSticker
  split
  · trivial
  · exact ⟨by omega, h⟩

theorem valid_ofFilter {n : Nat} (h : n < FilterSpec.slots) : (ofFilter n).Valid := by
  unfold ofFilter
  split
  · trivial
  · exact ⟨by omega, h⟩

@[simp] theorem isFilter_ofSticker (n : Nat) : (ofSticker n).isFilter = false := by
  unfold ofSticker
  split <;> rfl

@[simp] theorem isSticker_ofFilter (n : Nat) : (ofFilter n).isSticker = false := by
  unfold ofFilter
  split <;> rfl

theorem Valid.stickerSpec {id : Nat} (h : (sticker id).Valid) : ∃ spec, StickerSpec.byId? id = some spec := by
  obtain ⟨h1, h2⟩ := h
  have hlt : id - 1 < StickerSpec.table.length := by
    unfold StickerSpec.slots at h2
    omega
  exact ⟨StickerSpec.table[id - 1], by simp [StickerSpec.byId?, hlt, show id ≠ 0 by omega]⟩

theorem Valid.filterSpec {id : Nat} (h : (filter id).Valid) : ∃ spec, FilterSpec.byId? id = some spec := by
  obtain ⟨h1, h2⟩ := h
  have hlt : id - 1 < FilterSpec.table.length := by
    unfold FilterSpec.slots at h2
    omega
  exact ⟨FilterSpec.table[id - 1], by simp [FilterSpec.byId?, hlt, show id ≠ 0 by omega]⟩

end Mode

namespace Gestures

variable (g : Gestures)

@[simp] theorem reset_count : g.reset.count = 0 := rfl

@[simp] theorem reset_previousNose : g.reset.previousNose = none := rfl

theorem fresh_reset : g.reset.Fresh := ⟨rfl, rfl⟩

theorem observe_headTurn_of_previousNose (face : Face) (h : g.previousNose = none) :
    (g.observe face).1.headTurn = false := by
  unfold observe
  split
  · rfl
  · split
    · simp [h]
    · rfl

end Gestures

namespace Session

variable (s : Session)

@[simp] theorem setMode_mode (m : Mode) : (s.setMode m).2.mode = m := rfl

@[simp] theorem setMode_motion (m : Mode) : (s.setMode m).2.motion = s.motion := rfl

@[simp] theorem setMode_ready (m : Mode) : (s.setMode m).2.ready = s.ready := rfl

@[simp] theorem setMode_gestures (m : Mode) :
    (s.setMode m).2.gestures = if m.isSticker then s.gestures else s.gestures.reset := rfl

theorem observeGestures_snd_of_watching {id : Nat} {face : Face} {ev : GestureEvents}
    {g : Gestures} (hmode : s.mode = .sticker id) (hmotion : s.motion = true)
    (hobs : s.gestures.observe face = (ev, g)) :
    (s.observeGestures face).2 =
      if ev.headTurn then
        ({ s with gestures := g, captureRequested := s.captureRequested || ev.mouthOpen }.setMode
          (.ofSticker ((id + 1) % StickerSpec.slots))).2
      else { s with gestures := g, captureRequested := s.captureRequested || ev.mouthOpen } := by
  simp only [observeGestures, hmode, hmotion, hobs, if_true]
  split <;> rfl

theorem observeGestures_snd_of_not_watching (hw : s.watching = false) (face : Face) :
    (s.observeGestures face).2 = s := by
  unfold observeGestures
  split
  · next id hmode =>
    have hoff : s.motion = false := by simpa [watching, hmode, Mode.isSticker] using hw
    simp [hoff]
  · rfl

theorem nextSticker_lt : s.nextSticker < StickerSpec.slots := by
  unfold nextSticker
  split
  · exact Nat.mod_lt _ (by decide)
  · decide

theorem nextFilter_lt : s.nextFilter < FilterSpec.slots := by
  unfold nextFilter
  split
  · exact Nat.mod_lt _ (by decide)
  · decide

theorem invariant_new (ready : Bool) (c : Config) : (Session.new ready c).Invariant where
  modeValid := trivial
  motionOffUnderFilter := by simp [Session.new]
  readyForSticker := by simp [Session.new, Mode.isSticker]
  freshUnlessWatching := fun _ => ⟨rfl, rfl⟩

variable {s}

theorem Invariant.setMode {m : Mode} (hv : m.Valid) (hm : s.motion = true → m.isFilter = false)
    (hr : m.isSticker = true → s.ready = true)
    (hg : m.isSticker = true → s.motion = false → s.gestures.Fresh) :
    (s.setMode m).2.Invariant where
  modeValid := hv
  motionOffUnderFilter := hm
  readyForSticker := hr
  freshUnlessWatching := by
    intro hw
    simp only [setMode_gestures]
    split
    · next hs =>
      apply hg hs
      simpa [watching, hs] using hw
    · exact Gestures.fresh_reset _

theorem Invariant.advanceSticker (h : s.Invariant) : s.advanceSticker.2.Invariant := by
  unfold Session.advanceSticker
  split
  · next hready =>
    apply Invariant.setMode (Mode.valid_ofSticker s.nextSticker_lt)
    · simp
    · exact fun _ => hready
    · intro _ hmotion
      exact h.freshUnlessWatching (by simp [watching, hmotion])
  · exact h

theorem invariant_advanceFilter (s : Session) : s.advanceFilter.2.Invariant := by
  unfold Session.advanceFilter
  apply Invariant.setMode (Mode.valid_ofFilter s.nextFilter_lt)
  · simp
  · simp
  · simp

theorem Invariant.toggleMotion (h : s.Invariant) : s.toggleMotion.2.Invariant where
  modeValid := h.modeValid
  motionOffUnderFilter := by
    simp only [Session.toggleMotion]
    split <;> simp_all
  readyForSticker := h.readyForSticker
  freshUnlessWatching := fun _ => Gestures.fresh_reset _

theorem Invariant.takeCapture (h : s.Invariant) : s.takeCapture.2.Invariant where
  modeValid := h.modeValid
  motionOffUnderFilter := h.motionOffUnderFilter
  readyForSticker := h.readyForSticker
  freshUnlessWatching := h.freshUnlessWatching

theorem Invariant.markReady (h : s.Invariant) : s.markReady.Invariant where
  modeValid := h.modeValid
  motionOffUnderFilter := h.motionOffUnderFilter
  readyForSticker := fun _ => rfl
  freshUnlessWatching := h.freshUnlessWatching

theorem Invariant.apply (h : s.Invariant) (c : Control) : (s.apply c).2.Invariant := by
  cases c with
  | advanceSticker => exact h.advanceSticker
  | advanceFilter => exact invariant_advanceFilter s
  | toggleMotion => exact h.toggleMotion
  | takeCapture => exact h.takeCapture
  | markReady => exact h.markReady

theorem Invariant.observeGestures (h : s.Invariant) (face : Face) :
    (s.observeGestures face).2.Invariant := by
  cases hw : s.watching with
  | false => rw [s.observeGestures_snd_of_not_watching hw]; exact h
  | true =>
    obtain ⟨hmotion, hsticker⟩ : s.motion = true ∧ s.mode.isSticker = true := by
      simpa [watching] using hw
    obtain ⟨id, hmode⟩ : ∃ id, s.mode = .sticker id := by
      cases hm : s.mode with
      | sticker id => exact ⟨id, rfl⟩
      | idle => simp [hm, Mode.isSticker] at hsticker
      | filter id => simp [hm, Mode.isSticker] at hsticker
    have hready : s.ready = true := h.readyForSticker hsticker
    cases hobs : s.gestures.observe face with
    | mk ev g =>
      rw [s.observeGestures_snd_of_watching hmode hmotion hobs]
      split
      · apply Invariant.setMode (Mode.valid_ofSticker (Nat.mod_lt _ (by decide)))
        · simp
        · exact fun _ => hready
        · intro _ hoff
          simp [hmotion] at hoff
      · exact
          { modeValid := by simpa [hmode] using h.modeValid
            motionOffUnderFilter := fun _ => by simp [hmode, Mode.isFilter]
            readyForSticker := fun _ => hready
            freshUnlessWatching := fun hw' => by
              simp [watching, hmode, hmotion, Mode.isSticker] at hw' }

theorem Invariant.feed (h : s.Invariant) (e : SessionInput) : (s.feed e).Invariant := by
  cases e with
  | control c => exact h.apply c
  | face face => exact h.observeGestures face

theorem Reachable.invariant (h : s.Reachable) : s.Invariant := by
  induction h with
  | new ready c => exact invariant_new ready c
  | feed _ e ih => exact ih.feed e

theorem feed_gestures_of_not_watching (hw : s.watching = false) (e : SessionInput) :
    (s.feed e).gestures = s.gestures ∨ (s.feed e).gestures = s.gestures.reset := by
  have hset : ∀ (t : Session) (m : Mode),
      (t.setMode m).2.gestures = t.gestures ∨ (t.setMode m).2.gestures = t.gestures.reset := by
    intro t m
    simp only [setMode_gestures]
    split
    · exact .inl rfl
    · exact .inr rfl
  cases e with
  | control c =>
    cases c with
    | advanceSticker =>
      simp only [feed, Session.apply, Session.advanceSticker]
      split
      · exact hset s _
      · exact .inl rfl
    | advanceFilter => exact hset { s with motion := false } _
    | toggleMotion => exact .inr rfl
    | takeCapture => exact .inl rfl
    | markReady => exact .inl rfl
  | face face => exact .inl (by rw [feed, s.observeGestures_snd_of_not_watching hw])

theorem observeGestures_of_fresh (hf : s.gestures.Fresh) (face : Face) :
    (s.observeGestures face).1 = none := by
  unfold Session.observeGestures
  split
  · split
    · cases hobs : s.gestures.observe face with
      | mk ev g =>
        have hturn : ev.headTurn = false := by
          have hnone := s.gestures.observe_headTurn_of_previousNose face hf.2
          rwa [hobs] at hnone
        simp [hturn]
    · rfl
  · rfl

end Session

/-- Every reachable session keeps `Session.Invariant`, and the first face after gestures turn on
is never a head turn. -/
theorem reachable_session_invariant {s : Session} (h : s.Reachable) :
    s.Invariant ∧
      (∀ id, s.mode = .sticker id → ∃ spec, StickerSpec.byId? id = some spec) ∧
      (∀ id, s.mode = .filter id → ∃ spec, FilterSpec.byId? id = some spec) ∧
      (s.watching = false → ∀ e face,
        ((s.feed e).gestures.observe face).1.headTurn = false ∧
          ((s.feed e).observeGestures face).1 = none) := by
  have hinv : s.Invariant := by
    induction h with
    | new ready c => exact Session.invariant_new ready c
    | feed _ e ih => exact ih.feed e
  refine ⟨hinv, ?_, ?_, ?_⟩
  · intro id hmode
    have hv := hinv.modeValid
    rw [hmode] at hv
    exact hv.stickerSpec
  · intro id hmode
    have hv := hinv.modeValid
    rw [hmode] at hv
    exact hv.filterSpec
  · intro hw e face
    have hfresh : (s.feed e).gestures.Fresh := by
      rcases Session.feed_gestures_of_not_watching hw e with hg | hg
      · rw [hg]
        exact hinv.freshUnlessWatching hw
      · rw [hg]
        exact Gestures.fresh_reset _
    exact ⟨Gestures.observe_headTurn_of_previousNose _ face hfresh.2,
      Session.observeGestures_of_fresh hfresh face⟩

/-- A session whose landmark model was ready from the start, after the sticker button. -/
def firstStickerSession : Session := (Session.new true {}).feed (.control .advanceSticker)

theorem reachable_session_invariant_first_sticker :
    firstStickerSession.Reachable ∧ firstStickerSession.Invariant ∧
      (∀ id, firstStickerSession.mode = .sticker id → ∃ spec, StickerSpec.byId? id = some spec) ∧
      (∀ id, firstStickerSession.mode = .filter id → ∃ spec, FilterSpec.byId? id = some spec) ∧
      (firstStickerSession.watching = false → ∀ e face,
        ((firstStickerSession.feed e).gestures.observe face).1.headTurn = false ∧
          ((firstStickerSession.feed e).observeGestures face).1 = none) :=
  have h : firstStickerSession.Reachable := .feed (.new true {}) _
  ⟨h, reachable_session_invariant h⟩

end CameraOverlay
