import CameraOverlay.Detector
/-!
# A cadence around a replayed script

`Cadence.detect` asks its inner detector on calls `0, n, 2n, ...` and answers the faces it last
received in between; `Replay.detect` answers the entries of its script in order and then the last
one forever. Put together, call `k` answers entry `⌊k / n⌋` of the script, or its last entry once
the script has run out: the replay moves on once per `n` calls, never in between.

Both detectors keep a counter, and the proof carries them together (`CadenceReplayAt`): after
`j` calls the cadence has counted `j`, the replay's cursor stands at `⌈j / n⌉` (capped at the
last entry), and inside a block of `n` calls the cadence holds the block's entry.
-/

namespace CameraOverlay

namespace Replay

theorem detect_capped (script : List (List Face)) (m : Nat) :
    detect ⟨script, min m (script.length - 1)⟩ =
      (.ok (script.getD (min m (script.length - 1)) []),
        ⟨script, min (m + 1) (script.length - 1)⟩) := by
  cases script with
  | nil => simp [detect]
  | cons first rest =>
    simp only [detect, List.length_cons, Nat.add_sub_cancel, Nat.add_lt_add_iff_right,
      Prod.mk.injEq, Replay.mk.injEq, true_and]
    split <;> omega

end Replay

/-- The state of a cadence of interval `n` around a replay of `script`, after `j` calls. -/
structure CadenceReplayAt (script : List (List Face)) (n j : Nat) (c : Cadence Replay) : Prop where
  interval : c.interval = n
  count : c.count = j
  cursor : c.inner = ⟨script, min (j / n + if j % n = 0 then 0 else 1) (script.length - 1)⟩
  last : j % n ≠ 0 → c.last = script.getD (min (j / n) (script.length - 1)) []

namespace CadenceReplayAt

variable {script : List (List Face)} {n : Nat}

theorem start (script : List (List Face)) (n : Nat) :
    CadenceReplayAt script n 0 ⟨n, 0, [], Replay.ofScript script⟩ where
  interval := rfl
  count := rfl
  cursor := by simp [Replay.ofScript]
  last := by simp

theorem succ_div_add_ite (j : Nat) :
    (j + 1) / n + (if (j + 1) % n = 0 then 0 else 1) = j / n + 1 := by
  by_cases h : (j + 1) % n = 0
  · rw [if_pos h, Nat.succ_div_of_dvd (Nat.dvd_of_mod_eq_zero h)]
  · rw [if_neg h, Nat.succ_div_of_not_dvd (fun hd => h (Nat.mod_eq_zero_of_dvd hd))]

/-- One call answers the entry of its block and keeps `CadenceReplayAt`, one call further. -/
theorem detect {j : Nat} {c : Cadence Replay} (h : CadenceReplayAt script n j c) :
    (Cadence.detect Replay.detect c).1 = .ok (script.getD (min (j / n) (script.length - 1)) []) ∧
      CadenceReplayAt script n (j + 1) (Cadence.detect Replay.detect c).2 := by
  have hnext : ∀ m, (j + 1) % n ≠ 0 → m = j / n →
      m = (j + 1) / n := fun m hm hmj => by
    rw [hmj, Nat.succ_div_of_not_dvd (fun hd => hm (Nat.mod_eq_zero_of_dvd hd))]
  unfold Cadence.detect
  rw [h.count, h.interval]
  by_cases hj : j % n = 0
  · -- the start of a block: the replay answers and moves on
    have hinner := h.cursor
    rw [if_pos hj, Nat.add_zero] at hinner
    rw [if_pos hj, hinner, Replay.detect_capped]
    refine ⟨rfl, ⟨rfl, rfl, ?_, fun hm => ?_⟩⟩
    · simp [succ_div_add_ite]
    · simp [← hnext (j / n) hm rfl]
  · -- inside a block: the held entry is answered, the replay is not asked
    rw [if_neg hj]
    refine ⟨by rw [h.last hj], ⟨rfl, rfl, ?_, fun hm => ?_⟩⟩
    · simp [h.cursor, hj, succ_div_add_ite]
    · simp [h.last hj, ← hnext (j / n) hm rfl]

theorem run_answers {j : Nat} {c : Cadence Replay} (h : CadenceReplayAt script n j c) (k : Nat) :
    (Detect.run (Cadence.detect Replay.detect) c k).1 =
      (List.range' j k).map fun i => .ok (script.getD (min (i / n) (script.length - 1)) []) := by
  induction k generalizing j c with
  | zero => rfl
  | succ k ih =>
    obtain ⟨hanswer, hnext⟩ := h.detect
    simp only [Detect.run, List.range'_succ, List.map_cons, hanswer, ih hnext]

end CadenceReplayAt

namespace Cadence

theorem new?_eq_ok {σ : Type} {n : Nat} (hn : 1 ≤ n) (inner : σ) :
    new? n inner = .ok ⟨n, 0, [], inner⟩ := by
  simp [new?, show n ≠ 0 by omega]

end Cadence

/-- A cadence of any interval `n ≥ 1` around a replay answers call `k` with entry `⌊k / n⌋` of
the script, or its last entry. -/
theorem cadence_replay_answers {n : Nat} (hn : 1 ≤ n) :
    (∀ script, ∃ c, Cadence.new? n (Replay.ofScript script) = .ok c ∧
      ∀ k, (Detect.run (Cadence.detect Replay.detect) c k).1 =
        (List.range k).map fun i => .ok (script.getD (min (i / n) (script.length - 1)) [])) ∧
    (∀ c k, Cadence.new? n (Replay.ofScript []) = .ok c →
      (Detect.run (Cadence.detect Replay.detect) c k).1 = List.replicate k (.ok [])) ∧
    (∀ faces c k, Cadence.new? n (Replay.fixed faces) = .ok c →
      (Detect.run (Cadence.detect Replay.detect) c k).1 = List.replicate k (.ok faces)) := by
  have hanswers : ∀ script k,
      (Detect.run (Cadence.detect Replay.detect) ⟨n, 0, [], Replay.ofScript script⟩ k).1 =
        (List.range k).map fun i => .ok (script.getD (min (i / n) (script.length - 1)) []) := by
    intro script k
    rw [List.range_eq_range']
    exact (CadenceReplayAt.start script n).run_answers k
  refine ⟨fun script => ⟨_, Cadence.new?_eq_ok hn _, hanswers script⟩, fun c k hc => ?_,
    fun faces c k hc => ?_⟩
  · -- an empty script: every entry read is the default, no faces
    rw [Cadence.new?_eq_ok hn, Except.ok.injEq] at hc
    subst hc
    simp [hanswers, List.map_const']
  · -- a fixed list is a script of one entry: every index is capped to it
    rw [Replay.fixed, Cadence.new?_eq_ok hn, Except.ok.injEq] at hc
    subst hc
    simp [hanswers, List.map_const']

theorem cadence_replay_answers_every_other_call :
    1 ≤ 2 ∧
    (∀ script, ∃ c, Cadence.new? 2 (Replay.ofScript script) = .ok c ∧
      ∀ k, (Detect.run (Cadence.detect Replay.detect) c k).1 =
        (List.range k).map fun i => .ok (script.getD (min (i / 2) (script.length - 1)) [])) ∧
    (∀ c k, Cadence.new? 2 (Replay.ofScript []) = .ok c →
      (Detect.run (Cadence.detect Replay.detect) c k).1 = List.replicate k (.ok [])) ∧
    (∀ faces c k, Cadence.new? 2 (Replay.fixed faces) = .ok c →
      (Detect.run (Cadence.detect Replay.detect) c k).1 = List.replicate k (.ok faces)) :=
  ⟨by decide, cadence_replay_answers (by decide)⟩

end CameraOverlay
