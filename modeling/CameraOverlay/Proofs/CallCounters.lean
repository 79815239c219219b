import CameraOverlay.Detector
import CameraOverlay.Frame.Planes
import CameraOverlay.Proofs.GestureRun
/-!
# Call counters as 64-bit words

The cadence and the gesture tracker count their calls in a 64-bit machine word, which wraps
around to `0` after `2 ^ 64 - 1`; the model counts in `Nat`. `Cadence.detectWord` and
`Gestures.observeWord` are the two steps with the counter reduced modulo `2 ^ 64` after each
call. As long as the counter stays below `2 ^ 64`, in particular on every run of fewer than
`2 ^ 64` calls from a fresh counter, they answer exactly as `Cadence.detect` and
`Gestures.observe` (`Cadence.run_detectWord`, `Gestures.runWord_eq_run`).
-/

namespace CameraOverlay

namespace Cadence

variable {σ : Type} (d : Detect σ)

/-- `detect` with its call counter held in a 64-bit word. -/
def detectWord : Detect (Cadence σ) := fun c =>
  ((detect d c).1, { (detect d c).2 with count := (detect d c).2.count % wordModulus })

variable {d}

theorem detect_count (c : Cadence σ) : (detect d c).2.count = c.count + 1 := by
  unfold detect
  split
  · split <;> rfl
  · rfl

theorem detectWord_of_lt {c : Cadence σ} (h : c.count + 1 < wordModulus) :
    detectWord d c = detect d c := by
  have hword : (detect d c).2.count % wordModulus = (detect d c).2.count := by
    rw [detect_count]
    exact Nat.mod_eq_of_lt h
  simp only [detectWord, hword]

theorem run_detectWord {c : Cadence σ} {k : Nat} (h : c.count + k < wordModulus) :
    Detect.run (detectWord d) c k = Detect.run (detect d) c k := by
  induction k generalizing c with
  | zero => rfl
  | succ k ih =>
    have hnext : (detect d c).2.count + k < wordModulus := by
      rw [detect_count]
      omega
    simp only [Detect.run, detectWord_of_lt (show c.count + 1 < wordModulus by omega), ih hnext]

end Cadence

namespace Gestures

/-- `observe` with its face counter held in a 64-bit word. -/
def observeWord (g : Gestures) (face : Face) : GestureEvents × Gestures :=
  ((g.observe face).1, { (g.observe face).2 with count := (g.observe face).2.count % wordModulus })

/-- The events of feeding faces one after another to `observeWord`. -/
def runWord (g : Gestures) : List Face → List GestureEvents
  | [] => []
  | face :: faces => (g.observeWord face).1 :: (g.observeWord face).2.runWord faces

variable {g : Gestures} {face : Face}

theorem observe_count_le (g : Gestures) (face : Face) :
    (g.observe face).2.count ≤ g.count + 1 := by
  unfold observe
  split
  · exact Nat.le_succ _
  · split <;> exact Nat.le_refl _

theorem observeWord_of_lt (h : g.count + 1 < wordModulus) : g.observeWord face = g.observe face := by
  have hword : (g.observe face).2.count % wordModulus = (g.observe face).2.count :=
    Nat.mod_eq_of_lt (Nat.lt_of_le_of_lt (g.observe_count_le face) h)
  simp only [observeWord, hword]

theorem runWord_eq_run {faces : List Face} (h : g.count + faces.length < wordModulus) :
    g.runWord faces = g.run faces := by
  induction faces generalizing g with
  | nil => rfl
  | cons face faces ih =>
    simp only [List.length_cons] at h
    have hnext : (g.observe face).2.count + faces.length < wordModulus := by
      have := g.observe_count_le face
      omega
    rw [runWord, run, observeWord_of_lt (by omega), ih hnext]

end Gestures

end CameraOverlay
