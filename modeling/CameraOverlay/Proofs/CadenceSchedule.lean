import Mathlib.Logic.Function.Iterate
import CameraOverlay.Proofs.DetectorCadence
/-!
# The schedule of a cadence around any detector

A detector on its own, started at state `s`, answers a sequence `r₀, r₁, ...` on its successive
calls (`Detect.answer`). Wrapped in a cadence of interval `n`, call `k` asks it exactly when `k`
is a multiple of `n`, and then passes on its answer `r_{k / n}`; every other call answers the faces
of the latest successful answer received so far, among `r₀ ... r_{k / n}`. A failed answer is
passed on but does not replace the held faces, and it does not delay the next inner call: the
cadence counts every call, failed or not.

The proof carries one invariant through the calls (`CadenceAt`): after `j` calls the cadence has
counted `j`, its inner detector has answered the `⌈j / n⌉` calls at `0, n, 2n, ...` below `j`,
and it holds the latest faces among those answers.
-/

namespace CameraOverlay

namespace Detect

variable {σ : Type} (d : Detect σ) (s : σ)

def stateAfter (i : Nat) : σ := (fun t => (d t).2)^[i] s

def answer (i : Nat) : Detection := (d (d.stateAfter s i)).1

theorem stateAfter_succ (i : Nat) : d.stateAfter s (i + 1) = (d (d.stateAfter s i)).2 :=
  Function.iterate_succ_apply' _ _ _

end Detect

/-- The faces of the latest successful answer in a list of answers, or none if none succeeded. -/
def latestFaces (rs : List Detection) : List Face :=
  ((rs.filterMap Except.toOption).getLast?).getD []

@[simp] theorem latestFaces_nil : latestFaces [] = [] := rfl

theorem latestFaces_append_singleton (rs : List Detection) (r : Detection) :
    latestFaces (rs ++ [r]) = match r with
      | .ok faces => faces
      | .error _ => latestFaces rs := by
  cases r <;> simp [latestFaces, List.filterMap_append, Except.toOption]

namespace Cadence

/-- The number of calls below `j` that ask the inner detector: the multiples of `n`. -/
def innerCalls (n j : Nat) : Nat := j / n + if j % n = 0 then 0 else 1

theorem innerCalls_succ (n j : Nat) : innerCalls n (j + 1) = j / n + 1 :=
  CadenceReplayAt.succ_div_add_ite j

theorem innerCalls_of_due {n j : Nat} (h : j % n = 0) : innerCalls n j = j / n := by
  simp [innerCalls, h]

theorem innerCalls_of_not_due {n j : Nat} (h : j % n ≠ 0) : innerCalls n j = j / n + 1 := by
  simp [innerCalls, h]

end Cadence

variable {σ : Type} {d : Detect σ} {s : σ} {n : Nat}

/-- The state of a cadence of interval `n` around `d` started at `s`, after `j` calls. -/
structure CadenceAt (d : Detect σ) (s : σ) (n j : Nat) (c : Cadence σ) : Prop where
  interval : c.interval = n
  count : c.count = j
  inner : c.inner = d.stateAfter s (Cadence.innerCalls n j)
  last : c.last = latestFaces ((List.range (Cadence.innerCalls n j)).map (d.answer s))

namespace CadenceAt

theorem start (d : Detect σ) (s : σ) (n : Nat) : CadenceAt d s n 0 ⟨n, 0, [], s⟩ where
  interval := rfl
  count := rfl
  inner := by simp [Cadence.innerCalls, Detect.stateAfter]
  last := by simp [Cadence.innerCalls]

theorem detect {j : Nat} {c : Cadence σ} (h : CadenceAt d s n j c) :
    (Cadence.detect d c).1 =
        (if j % n = 0 then d.answer s (j / n)
         else .ok (latestFaces ((List.range (j / n + 1)).map (d.answer s)))) ∧
      (Cadence.detect d c).2.inner = (if j % n = 0 then (d c.inner).2 else c.inner) ∧
      CadenceAt d s n (j + 1) (Cadence.detect d c).2 := by
  have hcalls := Cadence.innerCalls_succ n j
  unfold Cadence.detect
  rw [h.count, h.interval]
  by_cases hj : j % n = 0
  · -- a due call: the inner detector answers `r_{j / n}` from the state it has reached
    have hinner : c.inner = d.stateAfter s (j / n) := by
      rw [h.inner, Cadence.innerCalls_of_due hj]
    have hlast : c.last = latestFaces ((List.range (j / n)).map (d.answer s)) := by
      rw [h.last, Cadence.innerCalls_of_due hj]
    have hstep : d c.inner = (d.answer s (j / n), d.stateAfter s (j / n + 1)) := by
      rw [hinner, Detect.stateAfter_succ]
      rfl
    simp only [if_pos hj, hstep]
    have hrange : (List.range (j / n + 1)).map (d.answer s) =
        (List.range (j / n)).map (d.answer s) ++ [d.answer s (j / n)] := by
      rw [List.range_succ, List.map_append, List.map_singleton]
    cases hr : d.answer s (j / n) with
    | ok faces =>
      refine ⟨rfl, rfl, ⟨rfl, rfl, by rw [hcalls], ?_⟩⟩
      rw [hcalls, hrange, latestFaces_append_singleton, hr]
    | error e =>
      refine ⟨rfl, rfl, ⟨rfl, rfl, by rw [hcalls], ?_⟩⟩
      rw [hcalls, hrange, latestFaces_append_singleton, hr, ← hlast]
  · -- inside a block: the held faces are answered and the inner detector is not asked
    have hcalls' : Cadence.innerCalls n j = j / n + 1 := Cadence.innerCalls_of_not_due hj
    simp only [if_neg hj, true_and]
    refine ⟨by rw [h.last, hcalls'], ⟨rfl, rfl, ?_, ?_⟩⟩
    · rw [h.inner, hcalls', hcalls]
    · rw [h.last, hcalls', hcalls]

/-- The invariant holds after every number of calls from a fresh cadence. -/
theorem run {c : Cadence σ} (h : CadenceAt d s n 0 c) (k : Nat) :
    CadenceAt d s n k ((Cadence.detect d).stateAfter c k) := by
  induction k with
  | zero => exact h
  | succ k ih =>
    rw [Detect.stateAfter_succ]
    exact ih.detect.2.2

end CadenceAt

/-- What call `k` of a cadence `c` of interval `n` around `d` does. -/
structure CadenceSchedule (d : Detect σ) (s : σ) (n : Nat) (c : Cadence σ) (k : Nat) : Prop where
  asks : ((Cadence.detect d).stateAfter c (k + 1)).inner =
    if k % n = 0 then (d ((Cadence.detect d).stateAfter c k).inner).2
    else ((Cadence.detect d).stateAfter c k).inner
  innerCalls : ((Cadence.detect d).stateAfter c k).inner =
    d.stateAfter s (Cadence.innerCalls n k)
  answer : (Cadence.detect d).answer c k =
    if k % n = 0 then d.answer s (k / n)
    else .ok (latestFaces ((List.range (k / n + 1)).map (d.answer s)))
  cache : ((Cadence.detect d).stateAfter c (k + 1)).last =
    latestFaces ((List.range (k / n + 1)).map (d.answer s))

/-- A cadence can be set up exactly for a positive interval, and then every call follows
`CadenceSchedule`. -/
theorem cadence_schedule (d : Detect σ) (s : σ) (n : Nat) :
    ((∃ e, Cadence.new? n s = .error e) ↔ n = 0) ∧
      ∀ c, Cadence.new? n s = .ok c → ∀ k, CadenceSchedule d s n c k := by
  refine ⟨?_, fun c hc k => ?_⟩
  · constructor
    · rintro ⟨e, he⟩
      by_contra hn
      simp [Cadence.new?, hn] at he
    · rintro rfl
      exact ⟨.zeroInterval, rfl⟩
  · have hn : 1 ≤ n := by
      rcases Nat.eq_zero_or_pos n with h0 | hpos
      · simp [Cadence.new?, h0] at hc
      · exact hpos
    rw [Cadence.new?_eq_ok hn, Except.ok.injEq] at hc
    subst hc
    have hk := (CadenceAt.start d s n).run k
    obtain ⟨hanswer, hinner, hnext⟩ := hk.detect
    have hstate : (Cadence.detect d).stateAfter ⟨n, 0, [], s⟩ (k + 1) =
        (Cadence.detect d ((Cadence.detect d).stateAfter ⟨n, 0, [], s⟩ k)).2 :=
      Detect.stateAfter_succ _ _ k
    refine ⟨by rw [hstate, hinner], hk.inner, hanswer, ?_⟩
    rw [hstate, hnext.last, Cadence.innerCalls_succ]

/-- A replay of two answers behind a detector that fails on its second call. -/
def flakyReplay : Faulty Replay := ⟨[1], 0, Replay.ofScript [[], []]⟩

theorem cadence_schedule_flaky_replay :
    Cadence.new? 3 flakyReplay = .ok ⟨3, 0, [], flakyReplay⟩ ∧
      ∀ k, CadenceSchedule (Faulty.detect Replay.detect) flakyReplay 3 ⟨3, 0, [], flakyReplay⟩ k :=
  ⟨rfl, (cadence_schedule (Faulty.detect Replay.detect) flakyReplay 3).2 _ rfl⟩

end CameraOverlay
