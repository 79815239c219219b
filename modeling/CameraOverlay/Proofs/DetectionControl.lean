import CameraOverlay.Proofs.FrameProcessing
/-!
# Mode changes reported to the camera

Every call that can change a session's mode reports the change: the sticker and filter buttons
answer a `Transition`, feeding a face to the gestures answers the transition a head turn caused,
and a processed frame answers the transition its gestures caused. Each report names the mode
before and after its call, and a call that reports nothing keeps the mode (`Reports`).

So camera glue that starts live face detection on `DetectionControl.start`, stops it on
`DetectionControl.stop` and begins stopped runs detection exactly while a sticker is shown, and
the starts and stops it hears take turns, beginning with a start (`TakeTurns`). Both hold after
every run from a fresh session, hence after every prefix of a run.
-/

namespace CameraOverlay

/-- A call on a session: a control, a face fed to the gestures, or a processed frame. -/
inductive SessionCall : Type 1 where
  | control (c : Control)
  | gestures (face : Face)
  | frame {σ : Type} (p : Overlay) (f : Frame) (format : PixelFormat) (d : Detect σ) (ds : σ)

def ControlReply.transition? : ControlReply → Option Transition
  | .transition t => some t
  | _ => none

def Session.call (s : Session) : SessionCall → Option Transition × Session
  | .control c => ((s.apply c).1.transition?, (s.apply c).2)
  | .gestures face => s.observeGestures face
  | .frame p f format d ds =>
    ((p.process s f format d ds).transition, (p.process s f format d ds).session)

/-- The reports of a run of calls, in order, and the session after it. -/
def Session.run (s : Session) : List SessionCall → List (Option Transition) × Session
  | [] => ([], s)
  | e :: es =>
    let (r, s') := s.call e
    let (rs, s'') := s'.run es
    (r :: rs, s'')

/-- A report is true to a call from mode `before` to mode `after`. -/
def Reports (before after : Mode) : Option Transition → Prop
  | some t => t.before = before ∧ t.after = after
  | none => after = before

/-- Camera glue: whether live detection runs after hearing a control. -/
def DetectionControl.follow (running : Bool) : DetectionControl → Bool
  | .start => true
  | .stop => false
  | .unchanged => running

def heardControls (reports : List (Option Transition)) : List DetectionControl :=
  reports.filterMap (·.map Transition.detection)

/-- Starts and stops take turns; `unchanged` may come at any time. -/
inductive TakeTurns : Bool → List DetectionControl → Prop
  | nil (running : Bool) : TakeTurns running []
  | unchanged {running : Bool} {cs : List DetectionControl} :
      TakeTurns running cs → TakeTurns running (.unchanged :: cs)
  | start {cs : List DetectionControl} : TakeTurns true cs → TakeTurns false (.start :: cs)
  | stop {cs : List DetectionControl} : TakeTurns false cs → TakeTurns true (.stop :: cs)

namespace Transition

variable (t : Transition)

theorem follow_detection : t.detection.follow t.before.isSticker = t.after.isSticker := by
  unfold detection
  cases t.before.isSticker <;> cases t.after.isSticker <;> rfl

theorem takeTurns_detection {cs : List DetectionControl} (h : TakeTurns t.after.isSticker cs) :
    TakeTurns t.before.isSticker (t.detection :: cs) := by
  unfold detection
  cases hb : t.before.isSticker <;> cases ha : t.after.isSticker <;> rw [ha] at h
  · exact .unchanged h
  · exact .start h
  · exact .stop h
  · exact .unchanged h

end Transition

namespace Session

variable (s : Session)

theorem reports_setMode (m : Mode) : Reports s.mode (s.setMode m).2.mode (some (s.setMode m).1) :=
  ⟨rfl, rfl⟩

theorem reports_advanceSticker :
    Reports s.mode s.advanceSticker.2.mode (some s.advanceSticker.1) := by
  unfold advanceSticker
  split
  · exact s.reports_setMode _
  · exact ⟨rfl, rfl⟩

theorem reports_apply (c : Control) :
    Reports s.mode (s.apply c).2.mode (s.apply c).1.transition? := by
  cases c with
  | advanceSticker => exact s.reports_advanceSticker
  | advanceFilter => exact { s with motion := false }.reports_setMode _
  | toggleMotion => rfl
  | takeCapture => rfl
  | markReady => rfl

theorem reports_observeGestures (face : Face) :
    Reports s.mode (s.observeGestures face).2.mode (s.observeGestures face).1 := by
  unfold observeGestures
  split
  · split
    · obtain ⟨ev, g⟩ := s.gestures.observe face
      dsimp only
      split
      · exact ⟨rfl, rfl⟩
      · rfl
    · rfl
  · rfl

theorem reports_frameEffect (format : PixelFormat) (answer : Detection) :
    Reports s.mode (s.frameEffect format answer).2.mode (s.frameEffect format answer).1 := by
  unfold frameEffect
  split
  · rcases answer with e | _ | ⟨first, rest⟩
    · rfl
    · rfl
    · exact s.reports_observeGestures first
  · rfl

theorem reports_call (e : SessionCall) : Reports s.mode (s.call e).2.mode (s.call e).1 := by
  cases e with
  | control c => exact s.reports_apply c
  | gestures face => exact s.reports_observeGestures face
  | frame p f format d ds =>
    obtain ⟨htransition, -, hsession⟩ := p.process_session_effect s f format d ds
    simp only [call, htransition, hsession]
    exact s.reports_frameEffect format (d ds).1

/-- Over a run, glue in step with the mode stays in step with it, and the controls it hears take
turns. -/
theorem run_follow (calls : List SessionCall) :
    (heardControls (s.run calls).1).foldl DetectionControl.follow s.mode.isSticker =
        (s.run calls).2.mode.isSticker ∧
      TakeTurns s.mode.isSticker (heardControls (s.run calls).1) := by
  induction calls generalizing s with
  | nil => exact ⟨rfl, .nil _⟩
  | cons e es ih =>
    obtain ⟨hfollow, hturns⟩ := ih (s.call e).2
    have hreport := s.reports_call e
    simp only [run]
    cases hr : (s.call e).1 with
    | none =>
      rw [hr] at hreport
      simp only [Reports] at hreport
      rw [hreport] at hfollow hturns
      exact ⟨hfollow, hturns⟩
    | some t =>
      rw [hr] at hreport
      obtain ⟨hbefore, hafter⟩ := hreport
      rw [← hafter] at hfollow hturns
      refine ⟨?_, ?_⟩
      · simp only [heardControls, List.filterMap_cons, Option.map_some, List.foldl_cons,
          ← hbefore, t.follow_detection]
        exact hfollow
      · simp only [heardControls, List.filterMap_cons, Option.map_some, ← hbefore]
        exact t.takeTurns_detection hturns

end Session

/-- Every call reports the mode change it makes, so over every run from a fresh session glue that
follows the controls runs detection exactly in sticker mode. -/
theorem detection_runs_exactly_in_sticker_mode (ready : Bool) (c : Config)
    (calls : List SessionCall) :
    (∀ (s : Session) (e : SessionCall), Reports s.mode (s.call e).2.mode (s.call e).1) ∧
    (heardControls ((Session.new ready c).run calls).1).foldl DetectionControl.follow false =
        ((Session.new ready c).run calls).2.mode.isSticker ∧
    TakeTurns false (heardControls ((Session.new ready c).run calls).1) :=
  ⟨Session.reports_call, (Session.new ready c).run_follow calls⟩

end CameraOverlay
