import CameraOverlay.Frame
/-!
# Where a pixel's bytes lie

`Shape.lumaIndex?` and `Shape.chromaIndex?` are row-major index maps guarded by a bounds
check. Here they are described by what they return, and each is shown to be injective: two
pixels never share a luma byte and two blocks never share a chroma byte. Chroma indices are even,
so the pairs of two different blocks are disjoint.
-/

namespace CameraOverlay

namespace Shape

variable (s : Shape) {x y x' y' cx cy cx' cy' : Int} {n m : Nat}

theorem lumaIndex?_eq_some :
    s.lumaIndex? x y = some n ↔
      (0 ≤ x ∧ x < s.width ∧ 0 ≤ y ∧ y < s.height) ∧ (n : Int) = x + y * s.width := by
  unfold lumaIndex?
  split
  · next hin =>
    have hnn : 0 ≤ x + y * s.width := Int.add_nonneg hin.1 (Int.mul_nonneg hin.2.2.1 (by omega))
    simp only [Option.some.injEq, hin, true_and]
    omega
  · next hout => exact iff_of_false (by simp) (fun h => hout h.1)

theorem chromaIndex?_eq_some :
    s.chromaIndex? cx cy = some m ↔
      (0 ≤ cx ∧ cx < (s.width / 2 : Nat) ∧ 0 ≤ cy ∧ cy < (s.height / 2 : Nat)) ∧
        (m : Int) = (cx + cy * (s.width / 2 : Nat)) * 2 := by
  unfold chromaIndex?
  dsimp only
  split
  · next hin =>
    have hnn : 0 ≤ cx + cy * (s.width / 2 : Nat) :=
      Int.add_nonneg hin.1 (Int.mul_nonneg hin.2.2.1 (by omega))
    simp only [Option.some.injEq, hin, true_and]
    omega
  · next hout => exact iff_of_false (by simp) (fun h => hout h.1)

private theorem row_col_of_index {w a b a' b' : Int} (ha : 0 ≤ a ∧ a < w) (ha' : 0 ≤ a' ∧ a' < w)
    (he : a + b * w = a' + b' * w) : a = a' ∧ b = b' := by
  have hw : w ≠ 0 := by omega
  have hb : (a + b * w) / w = b := by
    rw [Int.add_mul_ediv_right _ _ hw, Int.ediv_eq_zero_of_lt ha.1 ha.2, Int.zero_add]
  have hb' : (a' + b' * w) / w = b' := by
    rw [Int.add_mul_ediv_right _ _ hw, Int.ediv_eq_zero_of_lt ha'.1 ha'.2, Int.zero_add]
  have hrow : b = b' := by rw [← hb, ← hb', he]
  subst hrow
  exact ⟨by omega, rfl⟩

theorem lumaIndex?_inj (h : s.lumaIndex? x y = some n) (h' : s.lumaIndex? x' y' = some n) :
    x = x' ∧ y = y' := by
  obtain ⟨hin, hn⟩ := (s.lumaIndex?_eq_some).1 h
  obtain ⟨hin', hn'⟩ := (s.lumaIndex?_eq_some).1 h'
  exact row_col_of_index ⟨hin.1, hin.2.1⟩ ⟨hin'.1, hin'.2.1⟩ (hn.symm.trans hn')

theorem chromaIndex?_inj (h : s.chromaIndex? cx cy = some m) (h' : s.chromaIndex? cx' cy' = some m) :
    cx = cx' ∧ cy = cy' := by
  obtain ⟨hin, hm⟩ := (s.chromaIndex?_eq_some).1 h
  obtain ⟨hin', hm'⟩ := (s.chromaIndex?_eq_some).1 h'
  exact row_col_of_index ⟨hin.1, hin.2.1⟩ ⟨hin'.1, hin'.2.1⟩ (by omega)

theorem chromaIndex?_even (h : s.chromaIndex? cx cy = some m) : m % 2 = 0 := by
  obtain ⟨-, hm⟩ := (s.chromaIndex?_eq_some).1 h
  omega

theorem chromaIndex?_pair_disjoint {base base' : Nat} (h : s.chromaIndex? cx cy = some base)
    (h' : s.chromaIndex? cx' cy' = some base') (hne : (cx', cy') ≠ (cx, cy))
    (hm : m = base ∨ m = base + 1) : m ≠ base' ∧ m ≠ base' + 1 := by
  have hbase : base' ≠ base := by
    intro heq
    subst heq
    obtain ⟨hx, hy⟩ := s.chromaIndex?_inj h h'
    exact hne (by rw [hx, hy])
  have he := s.chromaIndex?_even h
  have he' := s.chromaIndex?_even h'
  omega

theorem lumaIndex?_lt (h : s.lumaIndex? x y = some n) : n < s.width * s.height := by
  obtain ⟨⟨hx0, hx1, hy0, hy1⟩, hn⟩ := (s.lumaIndex?_eq_some).1 h
  have hrow : (y.toNat + 1) * s.width ≤ s.height * s.width :=
    Nat.mul_le_mul_right _ (by omega)
  have hcast : ((y.toNat * s.width : Nat) : Int) = y * s.width := by
    rw [Int.natCast_mul, Int.toNat_of_nonneg hy0]
  rw [Nat.succ_mul, Nat.mul_comm s.height] at hrow
  omega

theorem half_area_eq_blocks (hw : s.width % 2 = 0) (hh : s.height % 2 = 0) :
    s.width * s.height / 2 = s.width / 2 * (s.height / 2) * 2 := by
  obtain ⟨a, ha⟩ : ∃ a, s.width = 2 * a := ⟨s.width / 2, by omega⟩
  obtain ⟨b, hb⟩ : ∃ b, s.height = 2 * b := ⟨s.height / 2, by omega⟩
  rw [ha, hb, Nat.mul_div_cancel_left _ (by decide : 0 < 2),
    Nat.mul_div_cancel_left _ (by decide : 0 < 2), Nat.mul_mul_mul_comm]
  omega

theorem chromaIndex?_succ_lt (hw : s.width % 2 = 0) (hh : s.height % 2 = 0)
    (h : s.chromaIndex? cx cy = some m) : m + 1 < s.width * s.height / 2 := by
  obtain ⟨⟨hx0, hx1, hy0, hy1⟩, hm⟩ := (s.chromaIndex?_eq_some).1 h
  have hrow : (cy.toNat + 1) * (s.width / 2) ≤ s.height / 2 * (s.width / 2) :=
    Nat.mul_le_mul_right _ (by omega)
  have hcast : ((cy.toNat * (s.width / 2) : Nat) : Int) = cy * (s.width / 2 : Nat) := by
    rw [Int.natCast_mul, Int.toNat_of_nonneg hy0]
  rw [Nat.succ_mul, Nat.mul_comm (s.height / 2)] at hrow
  have hsize := s.half_area_eq_blocks hw hh
  omega

/-- Every index below `width * height` is the luma byte of a pixel. -/
theorem lumaIndex?_of_lt (hn : n < s.width * s.height) :
    s.lumaIndex? (n % s.width : Nat) (n / s.width : Nat) = some n := by
  have hw : 0 < s.width := by
    rcases Nat.eq_zero_or_pos s.width with h | h
    · simp [h] at hn
    · exact h
  have hx : n % s.width < s.width := Nat.mod_lt _ hw
  have hy : n / s.width < s.height := Nat.div_lt_of_lt_mul hn
  have hsplit : n % s.width + n / s.width * s.width = n := Nat.mod_add_div' n s.width
  rw [lumaIndex?_eq_some]
  refine ⟨⟨Int.natCast_nonneg _, by exact_mod_cast hx, Int.natCast_nonneg _, by exact_mod_cast hy⟩, ?_⟩
  exact_mod_cast hsplit.symm

theorem chromaIndex?_of_lt (hw : s.width % 2 = 0) (hh : s.height % 2 = 0)
    (hm : m < s.width * s.height / 2) :
    ∃ cx cy base, s.chromaIndex? cx cy = some base ∧ (m = base ∨ m = base + 1) := by
  have hsize := s.half_area_eq_blocks hw hh
  have hblock : m / 2 < s.width / 2 * (s.height / 2) := by omega
  have hcw : 0 < s.width / 2 := by
    rcases Nat.eq_zero_or_pos (s.width / 2) with h | h
    · simp [h] at hblock
    · exact h
  have hx : m / 2 % (s.width / 2) < s.width / 2 := Nat.mod_lt _ hcw
  have hy : m / 2 / (s.width / 2) < s.height / 2 := Nat.div_lt_of_lt_mul hblock
  have hsplit : m / 2 % (s.width / 2) + m / 2 / (s.width / 2) * (s.width / 2) = m / 2 :=
    Nat.mod_add_div' _ _
  refine ⟨(m / 2 % (s.width / 2) : Nat), (m / 2 / (s.width / 2) : Nat), m / 2 * 2, ?_, by omega⟩
  rw [chromaIndex?_eq_some]
  refine ⟨⟨Int.natCast_nonneg _, by exact_mod_cast hx, Int.natCast_nonneg _, by exact_mod_cast hy⟩, ?_⟩
  have hcast : ((m / 2 % (s.width / 2) + m / 2 / (s.width / 2) * (s.width / 2) : Nat) : Int) =
      ((m / 2 : Nat) : Int) := by rw [hsplit]
  push_cast at hcast ⊢
  rw [hcast]

end Shape

/-- The luma of frame pixel `(x, y)`, or `none` off the frame. -/
def Frame.lumaAt? (f : Frame) (x y : Int) : Option UInt8 := (f.lumaIndex? x y).bind fun n => f.luma[n]?

/-- The pair stored on chroma block `(cx, cy)`, first byte first, or `none` off the frame. -/
def Frame.chromaPairAt? (f : Frame) (cx cy : Int) : Option (UInt8 × UInt8) :=
  (f.chromaIndex? cx cy).bind fun base =>
    (f.chroma[base]?).bind fun u => (f.chroma[base + 1]?).map fun v => (u, v)

theorem Frame.luma_getElem?_of_lumaIndex? {f : Frame} {x y : Int} {n : Nat}
    (h : f.lumaIndex? x y = some n) : ∃ b, f.luma[n]? = some b := by
  have hlt : n < f.luma.size := by
    rw [f.luma_size]
    exact f.shape.lumaIndex?_lt h
  exact ⟨f.luma[n], by simp [hlt]⟩

end CameraOverlay
