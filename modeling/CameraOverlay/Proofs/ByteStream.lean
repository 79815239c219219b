import CameraOverlay.Frame.Planes
/-!
# Reading and writing the NV12 byte stream

`Planes.ofStream?` reads a stream in three checks: the dimensions, then the stream's length
against `streamSize`, then the cut of the luma plane. `ofStream?_eq_ok_iff` says exactly when it
gives planes, and which; the refusals follow from the order of the checks.

The expected length `streamSize` is `w * h + w * h / 2` counted in a 64-bit word. As long as the
planes together hold fewer than `2 ^ 64` bytes, which every stream in memory does, reading and
writing are inverse to each other (`toStream_of_ofStream?`, `ofStream?_toStream`) and what is
read is a frame. For larger dimensions the count wraps around: a stream of the wrapped length
passes the check, is shorter than its own luma plane, and cutting that plane out of it stops the
program (`ofStream?_of_wrapped`).
-/

namespace CameraOverlay

namespace Planes

variable {d : Array UInt8} {w h : Nat}

theorem size_eq_streamSize_iff {n : Nat} :
    n = streamSize w h ∧ w * h ≤ n ↔ n = w * h + w * h / 2 ∧ n < wordModulus := by
  unfold streamSize wordModulus
  generalize w * h = lumaLen
  omega

theorem streamSize_of_lt (hfit : w * h + w * h / 2 < wordModulus) :
    streamSize w h = w * h + w * h / 2 :=
  Nat.mod_eq_of_lt hfit

theorem streamSize_lt_of_wrapped (hwrap : wordModulus ≤ w * h + w * h / 2) :
    streamSize w h < w * h := by
  unfold streamSize
  unfold wordModulus at hwrap ⊢
  generalize w * h = lumaLen at hwrap ⊢
  omega

/-- Reading succeeds exactly on even positive dimensions and a stream of both planes, below `2 ^
64` bytes. -/
theorem ofStream?_eq_ok_iff {b : Planes} :
    ofStream? d w h = .ok b ↔
      EvenDims w h ∧ d.size = w * h + w * h / 2 ∧ d.size < wordModulus ∧
        b = ⟨w, h, d.extract 0 (w * h), d.extract (w * h) d.size⟩ := by
  unfold ofStream?
  by_cases hd : EvenDims w h
  · rw [if_pos hd]
    dsimp only
    by_cases hs : d.size = streamSize w h
    · rw [if_pos hs]
      by_cases hl : w * h ≤ d.size
      · -- the only case with planes: the count did not wrap
        have hfit := size_eq_streamSize_iff.1 ⟨hs, hl⟩
        rw [if_pos hl, Except.ok.injEq]
        exact ⟨fun hb => ⟨hd, hfit.1, hfit.2, hb.symm⟩, fun hb => hb.2.2.2.symm⟩
      · rw [if_neg hl]
        refine iff_of_false (by simp) ?_
        rintro ⟨-, hsize, hword, -⟩
        exact hl (size_eq_streamSize_iff.2 ⟨hsize, hword⟩).2
    · rw [if_neg hs]
      refine iff_of_false (by simp) ?_
      rintro ⟨-, hsize, hword, -⟩
      exact hs (size_eq_streamSize_iff.2 ⟨hsize, hword⟩).1
  · rw [if_neg hd]
    exact iff_of_false (by simp) fun hb => hd hb.1

theorem ofStream?_eq_refused_iff {e : FrameError} :
    ofStream? d w h = .error (.refused e) ↔
      (¬EvenDims w h ∧ e = .dimensions w h) ∨
        (EvenDims w h ∧ d.size ≠ streamSize w h ∧ e = .streamLength (streamSize w h) d.size) := by
  unfold ofStream?
  by_cases hd : EvenDims w h
  · rw [if_pos hd]
    dsimp only
    by_cases hs : d.size = streamSize w h
    · -- a stream of the expected length is either split or stops the program
      rw [if_pos hs]
      refine iff_of_false ?_ (by simp [hd, hs])
      split <;> simp
    · rw [if_neg hs]
      simp [hd, hs, eq_comm]
  · rw [if_neg hd]
    simp [hd, eq_comm]

theorem ofStream?_of_wrapped (hd : EvenDims w h) (hs : d.size = streamSize w h)
    (hwrap : wordModulus ≤ w * h + w * h / 2) :
    ofStream? d w h = .error (.lumaPastEnd (w * h) d.size) := by
  have hshort : ¬ w * h ≤ d.size := by
    have hlt := streamSize_lt_of_wrapped hwrap
    omega
  unfold ofStream?
  rw [if_pos hd]
  dsimp only
  rw [if_pos hs, if_neg hshort]

theorem toStream_of_ofStream? {b : Planes} (hb : ofStream? d w h = .ok b) : b.toStream = d := by
  obtain ⟨-, hsize, -, rfl⟩ := ofStream?_eq_ok_iff.1 hb
  have hcut : w * h ≤ d.size := by omega
  simp only [toStream, Array.extract_append_extract, Nat.zero_min, Nat.max_eq_right hcut]
  exact Array.extract_size

end Planes

namespace Planes

variable (p : Planes)

theorem toFrame?_of_fits (hd : EvenDims p.width p.height)
    (hl : p.luma.size = p.width * p.height) (hc : p.chroma.size = p.width * p.height / 2) :
    ∃ f, p.toFrame? = .ok f ∧ f.toPlanes = p := by
  refine ⟨⟨p.width, p.height, p.luma, p.chroma, hd, hl, hc⟩, ?_, rfl⟩
  simp [toFrame?, Frame.ofPlanes?, hd, hl, hc]

theorem toFrame?_of_not_evenDims (hd : ¬EvenDims p.width p.height) :
    p.toFrame? = .error (.dimensions p.width p.height) := by
  simp [toFrame?, Frame.ofPlanes?, hd]

theorem ofStream?_toStream (hd : EvenDims p.width p.height)
    (hl : p.luma.size = p.width * p.height) (hc : p.chroma.size = p.width * p.height / 2)
    (hword : p.toStream.size < wordModulus) :
    ofStream? p.toStream p.width p.height = .ok p := by
  have hsize : p.toStream.size = p.width * p.height + p.width * p.height / 2 := by
    simp [toStream, hl, hc]
  rw [ofStream?_eq_ok_iff]
  refine ⟨hd, hsize, hword, ?_⟩
  have hluma : p.toStream.extract 0 (p.width * p.height) = p.luma := by
    simp [toStream, ← hl]
  have hchroma : p.toStream.extract (p.width * p.height) p.toStream.size = p.chroma := by
    simp [toStream, ← hl]
  rw [hluma, hchroma]

theorem toFrame?_of_ofStream? {d : Array UInt8} {w h : Nat} (hb : ofStream? d w h = .ok p) :
    ∃ f, p.toFrame? = .ok f ∧ f.toPlanes = p := by
  obtain ⟨hd, hsize, -, rfl⟩ := ofStream?_eq_ok_iff.1 hb
  apply toFrame?_of_fits
  · exact hd
  · simp only [Array.size_extract]
    omega
  · simp only [Array.size_extract]
    omega

theorem filled_fits (w h : Nat) (y c : UInt8) :
    (filled w h y c).luma.size = w * h ∧ (filled w h y c).chroma.size = w * h / 2 := by
  simp [filled]

end Planes

/-- Reading a byte stream as the planes of a frame: what is refused, in which order, and what a
stream of the expected length splits into, also when its count wrapped. -/
theorem byte_stream_split_exact (d : Array UInt8) (w h : Nat) :
    (Planes.ofStream? d w h = .error (.refused (.dimensions w h)) ↔ ¬EvenDims w h) ∧
    (EvenDims w h →
      (Planes.ofStream? d w h = .error (.refused (.streamLength (Planes.streamSize w h) d.size)) ↔
        d.size ≠ Planes.streamSize w h)) ∧
    (EvenDims w h → d.size = Planes.streamSize w h → w * h + w * h / 2 < wordModulus →
      ∃ b, Planes.ofStream? d w h = .ok b ∧ b.toStream = d ∧ ∃ f, b.toFrame? = .ok f) ∧
    (EvenDims w h → d.size = Planes.streamSize w h → wordModulus ≤ w * h + w * h / 2 →
      Planes.ofStream? d w h = .error (.lumaPastEnd (w * h) d.size)) ∧
    (∀ b : Planes, EvenDims b.width b.height → b.luma.size = b.width * b.height →
      b.chroma.size = b.width * b.height / 2 → b.toStream.size < wordModulus →
        Planes.ofStream? b.toStream b.width b.height = .ok b) ∧
    (∀ y c : UInt8,
      (¬EvenDims w h → (Planes.filled w h y c).toFrame? = .error (.dimensions w h)) ∧
      (EvenDims w h → ∃ f, (Planes.filled w h y c).toFrame? = .ok f)) := by
  refine ⟨?_, ?_, ?_, ?_, ?_, ?_⟩
  · -- refused for the dimensions: only the first check does that
    rw [Planes.ofStream?_eq_refused_iff]
    constructor
    · rintro (⟨hd, -⟩ | ⟨-, -, he⟩)
      · exact hd
      · cases he
    · intro hd
      exact Or.inl ⟨hd, rfl⟩
  · -- refused for the length: only the second check does that
    intro hd
    rw [Planes.ofStream?_eq_refused_iff]
    constructor
    · rintro (⟨hnd, -⟩ | ⟨-, hs, -⟩)
      · exact absurd hd hnd
      · exact hs
    · intro hs
      exact Or.inr ⟨hd, hs, rfl⟩
  · intro hd hs hfit
    have hsize : d.size = w * h + w * h / 2 := by rw [hs, Planes.streamSize_of_lt hfit]
    have hb : Planes.ofStream? d w h = .ok ⟨w, h, d.extract 0 (w * h), d.extract (w * h) d.size⟩ :=
      Planes.ofStream?_eq_ok_iff.2 ⟨hd, hsize, hsize ▸ hfit, rfl⟩
    obtain ⟨f, hf, -⟩ := Planes.toFrame?_of_ofStream? _ hb
    exact ⟨_, hb, Planes.toStream_of_ofStream? hb, f, hf⟩
  · exact Planes.ofStream?_of_wrapped
  · exact fun b hd hl hc hword => b.ofStream?_toStream hd hl hc hword
  · intro y c
    obtain ⟨hl, hc⟩ := Planes.filled_fits w h y c
    refine ⟨(Planes.filled w h y c).toFrame?_of_not_evenDims, fun hd => ?_⟩
    obtain ⟨f, hf, -⟩ := (Planes.filled w h y c).toFrame?_of_fits hd hl hc
    exact ⟨f, hf⟩

/-- A 32-byte stream whose expected length wraps to `32` passes the check, and cutting out its
luma plane stops the program. -/
theorem byte_stream_split_exact_wrapped_count :
    Planes.ofStream? (Array.replicate 32 0) 3369774176 3649452082 =
      .error (.lumaPastEnd 12297829382473034432 32) :=
  (byte_stream_split_exact (Array.replicate 32 0) 3369774176 3649452082).2.2.2.1
    (by decide) (by decide) (by decide)

end CameraOverlay
