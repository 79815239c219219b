import CameraOverlay.Gesture
/-!
# Gestures over a run of faces

Fed one face after another, with no reset in between, the tracker answers each face in a closed
form (`Gestures.closedForm`) that depends only on the faces with landmarks seen before it: with
`k` of them, the face is sampled when `k % n = 0`; a sampled face turns the head when an earlier
face with landmarks exists and the nose moved sideways from that face's nose by more than the box
width over the head-turn divisor; it opens the mouth when the lips stand further apart than the
box height over the mouth divisor. A face without landmarks answers nothing and is not counted.

The proof carries one invariant (`Gestures.after`): the tracker that has seen the faces `seen`
with landmarks has counted them and holds the last one's nose. `observe_after` is the step and
`run_after` the run.

All the quantities compared are differences of two 32-bit numbers, so they need 33 bits: the
comparisons and the quotients, by divisors of at least one, are exact in 64-bit arithmetic.
-/

namespace CameraOverlay

theorem Landmarks.noseBottom_lt : Landmarks.noseBottom < landmarkCount := by decide

/-- The bottom of the nose, where head turns are measured. -/
def Landmarks.nose (l : Landmarks) : Point := l.get Landmarks.noseBottom Landmarks.noseBottom_lt

def landmarked (faces : List Face) : List (FaceRect × Landmarks) :=
  faces.filterMap fun face => face.landmarks.map fun l => (face.rect, l)

theorem landmarked_append (xs ys : List Face) :
    landmarked (xs ++ ys) = landmarked xs ++ landmarked ys :=
  List.filterMap_append

namespace Gestures

/-- The events of feeding faces to a tracker one after another. -/
def run (g : Gestures) : List Face → List GestureEvents
  | [] => []
  | face :: faces => (g.observe face).1 :: (g.observe face).2.run faces

def feedAll (g : Gestures) (faces : List Face) : Gestures :=
  faces.foldl (fun g face => (g.observe face).2) g

/-- What a tracker of interval `n` and divisors `hd`, `md` reports on `face`, after the faces
`seen` with landmarks. -/
def closedForm (n : Nat) (hd md : Int) (seen : List (FaceRect × Landmarks)) (face : Face) :
    GestureEvents :=
  match face.landmarks with
  | none => ⟨false, false⟩
  | some l =>
    ⟨decide (seen.length % n = 0) && seen.getLast?.any (fun prev =>
        decide (((l.nose.x.toInt - prev.2.nose.x.toInt).natAbs : Int) > face.rect.width.tdiv hd)),
      decide (seen.length % n = 0) && decide (l.mouthGap > face.rect.height.tdiv md)⟩

/-- The tracker that was fed the faces `seen` with landmarks. -/
def after (n : Nat) (hd md : Int) (seen : List (FaceRect × Landmarks)) : Gestures :=
  ⟨n, hd, md, seen.length, seen.getLast?.map fun p => p.2.nose⟩

variable {n : Nat} {hd md : Int}

theorem ofConfig_eq_after (c : Config) :
    ofConfig c =
      after (max c.gestureInterval 1) (max c.headTurnDivisor.toInt 1) (max c.mouthOpenDivisor.toInt 1)
        [] := rfl

theorem observe_of_landmarks_eq_none (g : Gestures) {face : Face} (h : face.landmarks = none) :
    g.observe face = (⟨false, false⟩, g) := by
  simp [observe, h]

theorem observe_after (seen : List (FaceRect × Landmarks)) (face : Face) :
    (after n hd md seen).observe face =
      (closedForm n hd md seen face, after n hd md (seen ++ landmarked [face])) := by
  cases hl : face.landmarks with
  | none =>
    rw [observe_of_landmarks_eq_none _ hl]
    simp [closedForm, landmarked, hl]
  | some l =>
    have hseen : landmarked [face] = [(face.rect, l)] := by simp [landmarked, hl]
    rw [hseen]
    by_cases hs : seen.length % n = 0
    · cases hlast : seen.getLast? <;>
        simp [observe, closedForm, after, hl, hs, hlast, Landmarks.nose]
    · simp [observe, closedForm, after, hl, hs, Landmarks.nose]

theorem run_after (seen : List (FaceRect × Landmarks)) (faces : List Face) :
    (after n hd md seen).run faces =
      faces.mapIdx fun t face => closedForm n hd md (seen ++ landmarked (faces.take t)) face := by
  induction faces generalizing seen with
  | nil => rfl
  | cons face faces ih =>
    rw [run, observe_after, ih, List.mapIdx_cons, List.take_zero]
    have hearlier : ∀ t, seen ++ landmarked [face] ++ landmarked (faces.take t) =
        seen ++ landmarked ((face :: faces).take (t + 1)) := by
      intro t
      rw [List.take_succ_cons, show face :: faces.take t = [face] ++ faces.take t from rfl,
        landmarked_append, List.append_assoc]
    simp only [hearlier, show landmarked [] = [] from rfl, List.append_nil]

theorem feedAll_after (seen : List (FaceRect × Landmarks)) (faces : List Face) :
    (after n hd md seen).feedAll faces = after n hd md (seen ++ landmarked faces) := by
  induction faces generalizing seen with
  | nil => simp [feedAll, landmarked]
  | cons face faces ih =>
    rw [feedAll, List.foldl_cons, ← feedAll, observe_after, ih, List.append_assoc,
      ← landmarked_append, List.singleton_append]

theorem reset_after (seen : List (FaceRect × Landmarks)) :
    (after n hd md seen).reset = after n hd md [] := rfl

end Gestures

theorem Int32.natAbs_sub_le (a b : Int32) : (a.toInt - b.toInt).natAbs ≤ 4294967295 := by
  have ha := a.toInt_lt
  have ha' := a.le_toInt
  have hb := b.toInt_lt
  have hb' := b.le_toInt
  omega

theorem FaceRect.width_natAbs_le (r : FaceRect) : r.width.natAbs ≤ 4294967295 :=
  Int32.natAbs_sub_le r.right r.left

theorem FaceRect.height_natAbs_le (r : FaceRect) : r.height.natAbs ≤ 4294967295 :=
  Int32.natAbs_sub_le r.bottom r.top

theorem Landmarks.mouthGap_le (l : Landmarks) : l.mouthGap ≤ 4294967295 := by
  have h := Int32.natAbs_sub_le (l.get Landmarks.upperLipTop).y (l.get Landmarks.lowerLipBottom).y
  unfold Landmarks.mouthGap
  omega

/-- A tracker set up from any settings answers every face of a run in closed form, and reset
gives back the tracker set up at the start. -/
theorem gestures_closed_form (c : Config) (faces : List Face) :
    (Gestures.ofConfig c).run faces =
        faces.mapIdx (fun t face =>
          Gestures.closedForm (max c.gestureInterval 1) (max c.headTurnDivisor.toInt 1)
            (max c.mouthOpenDivisor.toInt 1) (landmarked (faces.take t)) face) ∧
      (∀ (g : Gestures) (face : Face), face.landmarks = none →
        g.observe face = (⟨false, false⟩, g)) ∧
      ((Gestures.ofConfig c).feedAll faces).reset = Gestures.ofConfig c ∧
      (1 ≤ max c.gestureInterval 1 ∧ 1 ≤ max c.headTurnDivisor.toInt 1 ∧
        1 ≤ max c.mouthOpenDivisor.toInt 1) ∧
      (∀ r : FaceRect, r.width.natAbs ≤ 4294967295 ∧ r.height.natAbs ≤ 4294967295) ∧
      (∀ p q : Point, (p.x.toInt - q.x.toInt).natAbs ≤ 4294967295) ∧
      (∀ l : Landmarks, l.mouthGap ≤ 4294967295) := by
  refine ⟨?_, fun g _ h => g.observe_of_landmarks_eq_none h, ?_,
    ⟨Nat.le_max_right _ _, Int.le_max_right _ _, Int.le_max_right _ _⟩,
    fun r => ⟨r.width_natAbs_le, r.height_natAbs_le⟩, fun p q => Int32.natAbs_sub_le p.x q.x,
    Landmarks.mouthGap_le⟩
  · rw [Gestures.ofConfig_eq_after, Gestures.run_after]
    simp
  · rw [Gestures.ofConfig_eq_after, Gestures.feedAll_after, Gestures.reset_after]

end CameraOverlay
