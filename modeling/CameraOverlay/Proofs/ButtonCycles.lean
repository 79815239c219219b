import Mathlib.Logic.Function.Iterate
import CameraOverlay.Proofs.SessionInvariant
/-!
# Cycling through stickers and filters

The sticker button walks the cycle of sticker ids `1, 2, ..., slots - 1` and back to idle, which
stands at `0` in the cycle; the filter button walks the filters the same way and switches motion
mode off. Counted so, `n` presses move the id on by `n` modulo the number of slots, from any point
of the cycle (`iterate_mode_cycle`), and a press from the other cycle enters at the first entry.
Until the landmark model is ready the sticker button does nothing.

A head turn advances the sticker by the rule of the button, so in sticker mode, where the model
of a reachable session is ready, the gesture and the button agree on the mode they reach and on
the transition they report (`observeGestures_eq_advanceSticker`).
-/

namespace CameraOverlay

namespace Session

variable {s : Session}

@[simp] theorem advanceSticker_motion : s.advanceSticker.2.motion = s.motion := by
  unfold advanceSticker
  split <;> rfl

@[simp] theorem advanceSticker_ready : s.advanceSticker.2.ready = s.ready := by
  unfold advanceSticker
  split <;> rfl

@[simp] theorem advanceFilter_motion : s.advanceFilter.2.motion = false := rfl

theorem advanceSticker_of_ready (hr : s.ready = true) :
    s.advanceSticker = s.setMode (.ofSticker s.nextSticker) := by
  simp [advanceSticker, hr]

theorem advanceSticker_of_not_ready (hr : s.ready = false) :
    s.advanceSticker = (.stay s.mode, s) := by
  simp [advanceSticker, hr]

theorem nextSticker_of_mode {i : Nat} (hi : s.mode = .ofSticker i) :
    s.nextSticker = (i + 1) % StickerSpec.slots := by
  unfold Mode.ofSticker at hi
  split at hi
  · next h0 => simp [nextSticker, hi, h0, StickerSpec.slots, StickerSpec.table]
  · simp [nextSticker, hi]

theorem nextFilter_of_mode {i : Nat} (hi : s.mode = .ofFilter i) :
    s.nextFilter = (i + 1) % FilterSpec.slots := by
  unfold Mode.ofFilter at hi
  split at hi
  · next h0 => simp [nextFilter, hi, h0, FilterSpec.slots, FilterSpec.table]
  · simp [nextFilter, hi]

/-- A step that moves a cycle of `k` slots on by one moves it on by `n` in `n` steps. -/
theorem iterate_mode_cycle {k : Nat} (hk : 0 < k) {enc : Nat → Mode} {step : Session → Session}
    {P : Session → Prop}
    (hstep : ∀ t i, P t → t.mode = enc i → P (step t) ∧ (step t).mode = enc ((i + 1) % k))
    {i : Nat} (hP : P s) (hi : s.mode = enc i) (hlt : i < k) (n : Nat) :
    (step^[n] s).mode = enc ((i + n) % k) := by
  induction n generalizing s i with
  | zero => rw [Function.iterate_zero_apply, Nat.add_zero, Nat.mod_eq_of_lt hlt, hi]
  | succ n ih =>
    obtain ⟨hP', hmode⟩ := hstep s i hP hi
    rw [Function.iterate_succ_apply, ih hP' hmode (Nat.mod_lt _ hk), Nat.mod_add_mod,
      Nat.add_assoc, Nat.add_comm 1 n]

theorem advanceSticker_iterate_mode (hr : s.ready = true) {i : Nat} (hi : s.mode = .ofSticker i)
    (hlt : i < StickerSpec.slots) (n : Nat) :
    ((fun t : Session => t.advanceSticker.2)^[n] s).mode = .ofSticker ((i + n) % StickerSpec.slots) := by
  apply iterate_mode_cycle (P := fun t => t.ready = true) (by decide) _ hr hi hlt
  intro t j htr htj
  exact ⟨by simp [htr], by rw [advanceSticker_of_ready htr, setMode_mode, nextSticker_of_mode htj]⟩

example : ((fun t : Session => t.advanceSticker.2)^[StickerSpec.slots] (Session.new true {})).mode =
    .idle := by
  decide

theorem advanceSticker_iterate_motion (n : Nat) :
    ((fun t : Session => t.advanceSticker.2)^[n] s).motion = s.motion := by
  induction n generalizing s with
  | zero => rfl
  | succ n ih => rw [Function.iterate_succ_apply, ih, advanceSticker_motion]

theorem advanceFilter_iterate_mode {i : Nat} (hi : s.mode = .ofFilter i)
    (hlt : i < FilterSpec.slots) (n : Nat) :
    ((fun t : Session => t.advanceFilter.2)^[n] s).mode = .ofFilter ((i + n) % FilterSpec.slots) := by
  apply iterate_mode_cycle (P := fun _ => True) (by decide) _ trivial hi hlt
  intro t j _ htj
  exact ⟨trivial, by rw [advanceFilter, setMode_mode, nextFilter_of_mode htj]⟩

theorem advanceFilter_iterate_motion {n : Nat} (hn : 0 < n) :
    ((fun t : Session => t.advanceFilter.2)^[n] s).motion = false := by
  obtain ⟨m, rfl⟩ : ∃ m, n = m + 1 := ⟨n - 1, by omega⟩
  rw [Function.iterate_succ_apply']
  exact advanceFilter_motion

theorem advanceSticker_of_filter (hr : s.ready = true) {f : Nat} (hf : s.mode = .filter f) :
    s.advanceSticker.2.mode = .sticker 1 := by
  simp [advanceSticker_of_ready hr, nextSticker, hf, Mode.ofSticker]

theorem advanceFilter_of_sticker {i : Nat} (hi : s.mode = .sticker i) :
    s.advanceFilter.2.mode = .filter 1 := by
  simp [advanceFilter, nextFilter, hi, Mode.ofFilter]

theorem observeGestures_eq_advanceSticker (hr : s.mode.isSticker = true → s.ready = true)
    (face : Face) :
    (s.observeGestures face).1.isSome = (s.watching && (s.gestures.observe face).1.headTurn) ∧
      ∀ t, (s.observeGestures face).1 = some t →
        t = s.advanceSticker.1 ∧ (s.observeGestures face).2.mode = s.advanceSticker.2.mode := by
  unfold observeGestures
  split
  · next id hmode =>
    cases hmotion : s.motion with
    | false => simp [watching, hmotion]
    | true =>
      obtain ⟨ev, g⟩ := s.gestures.observe face
      cases hturn : ev.headTurn with
      | false => simp [watching, hmotion, hmode, hturn, Mode.isSticker]
      | true =>
        have hnext : s.nextSticker = (id + 1) % StickerSpec.slots := by simp [nextSticker, hmode]
        have hready : s.ready = true := hr (by simp [hmode, Mode.isSticker])
        simp [watching, hmotion, hmode, hturn, Mode.isSticker, advanceSticker_of_ready hready, hnext,
          setMode]
  · next hmode =>
    have hns : s.mode.isSticker = false := by
      cases hm : s.mode with
      | sticker id => exact absurd hm (hmode id)
      | idle => rfl
      | filter id => rfl
    simp [watching, hns]

theorem Invariant.lt_of_ofSticker (h : s.Invariant) {i : Nat} (hi : s.mode = .ofSticker i) :
    i < StickerSpec.slots := by
  unfold Mode.ofSticker at hi
  split at hi
  · next h0 => simp [h0, StickerSpec.slots]
  · have hv := h.modeValid
    rw [hi] at hv
    exact hv.2

theorem Invariant.lt_of_ofFilter (h : s.Invariant) {i : Nat} (hi : s.mode = .ofFilter i) :
    i < FilterSpec.slots := by
  unfold Mode.ofFilter at hi
  split at hi
  · next h0 => simp [h0, FilterSpec.slots]
  · have hv := h.modeValid
    rw [hi] at hv
    exact hv.2

/-- What the two buttons and a head turn do from a session. Idle stands at `0` of both cycles. -/
structure ButtonLaws (s : Session) : Prop where
  stickerCycle : s.ready = true → ∀ i, s.mode = .ofSticker i → ∀ n,
    ((fun t : Session => t.advanceSticker.2)^[n] s).mode = .ofSticker ((i + n) % StickerSpec.slots) ∧
      ((fun t : Session => t.advanceSticker.2)^[n] s).motion = s.motion
  stickerFromFilter : s.ready = true → ∀ f, s.mode = .filter f → s.advanceSticker.2.mode = .sticker 1
  filterCycle : ∀ f, s.mode = .ofFilter f → ∀ n,
    ((fun t : Session => t.advanceFilter.2)^[n] s).mode = .ofFilter ((f + n) % FilterSpec.slots) ∧
      (0 < n → ((fun t : Session => t.advanceFilter.2)^[n] s).motion = false)
  filterFromSticker : ∀ i, s.mode = .sticker i → s.advanceFilter.2.mode = .filter 1
  stickerNotReady : s.ready = false → s.advanceSticker = (.stay s.mode, s)
  headTurn : ∀ face, (s.observeGestures face).1.isSome =
      (s.watching && (s.gestures.observe face).1.headTurn) ∧
    ∀ t, (s.observeGestures face).1 = some t →
      t = s.advanceSticker.1 ∧ (s.observeGestures face).2.mode = s.advanceSticker.2.mode

end Session

/-- Every reachable session obeys the button laws. -/
theorem reachable_button_laws {s : Session} (hs : s.Reachable) : s.ButtonLaws :=
  have hinv := hs.invariant
  { stickerCycle := fun hr _ hi n =>
      ⟨Session.advanceSticker_iterate_mode hr hi (hinv.lt_of_ofSticker hi) n,
        Session.advanceSticker_iterate_motion n⟩
    stickerFromFilter := fun hr _ hf => Session.advanceSticker_of_filter hr hf
    filterCycle := fun _ hf n =>
      ⟨Session.advanceFilter_iterate_mode hf (hinv.lt_of_ofFilter hf) n,
        fun hn => Session.advanceFilter_iterate_motion hn⟩
    filterFromSticker := fun _ hi => Session.advanceFilter_of_sticker hi
    stickerNotReady := Session.advanceSticker_of_not_ready
    headTurn := Session.observeGestures_eq_advanceSticker hinv.readyForSticker }

/-- A session whose model was ready from the start, after one press of the filter button. -/
def firstFilterSession : Session := (Session.new true {}).feed (.control .advanceFilter)

theorem reachable_button_laws_first_filter :
    firstFilterSession.Reachable ∧ firstFilterSession.ButtonLaws :=
  have h : firstFilterSession.Reachable := .feed (.new true {}) _
  ⟨h, reachable_button_laws h⟩

end CameraOverlay
