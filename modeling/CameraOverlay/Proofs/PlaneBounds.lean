import CameraOverlay.Composite.Blit
import CameraOverlay.Proofs.MarkerSquares
import CameraOverlay.Proofs.FilterBytes
/-!
# Every write lands inside its plane

The index helpers `Shape.lumaIndex?` and `Shape.chromaIndex?` are maps from a rectangle of pixels
or of 2x2 blocks to the bytes of a plane. Each is defined exactly on its rectangle, one-to-one,
and onto its plane: the luma map onto every byte, the chroma map onto the even bytes, so the V
byte after the U byte of a block lies in the plane too.

Both indices are computed in signed 64-bit words (`Shape.lumaIndexWord?`,
`Shape.chromaIndexWord?`). A buffer holds at most `isizeMax` bytes, and on a frame whose luma
plane fits one (`Shape.Addressable`) no step of those computations wraps around: the words give
the exact indices for every pair of 64-bit coordinates
(`Shape.Addressable.lumaIndexWord?_toNat`).

Every write of the two keys and of the landmark markers is placed by one of the helpers
(`Shape.Addressed`), so it lands inside its plane for every sprite and every anchor; a filter
maps each plane onto one of the same size. `frame_index_laws` gathers all of it.
-/

namespace CameraOverlay

/-- The largest number of bytes one buffer can hold: the largest signed 64-bit word. -/
def isizeMax : Nat := 9223372036854775807

namespace Shape

variable (s : Shape)

/-- Dimensions whose luma plane fits one buffer. -/
structure Addressable : Prop where
  width_pos : 0 < s.width
  height_pos : 0 < s.height
  area_le : s.width * s.height ≤ isizeMax

/-! ## The index helpers in 64-bit words -/

def widthWord : Int64 := Int64.ofNat s.width

def heightWord : Int64 := Int64.ofNat s.height

/-- The luma offset of pixel `(x, y)`, `x + y * width`, in signed 64-bit words. -/
def lumaWord (x y : Int64) : Int64 := x + y * s.widthWord

/-- The offset of the U byte of block `(cx, cy)` in signed 64-bit words. -/
def chromaWord (cx cy : Int64) : Int64 := (cx + cy * (s.widthWord / 2)) * 2

/-- `lumaIndex?` as 64-bit words compute it. -/
def lumaIndexWord? (x y : Int64) : Option UInt64 :=
  if x < 0 ∨ y < 0 ∨ s.widthWord ≤ x ∨ s.heightWord ≤ y then none
  else some (s.lumaWord x y).toUInt64

/-- `chromaIndex?` as 64-bit words compute it: the block grid is the dimensions halved as words. -/
def chromaIndexWord? (cx cy : Int64) : Option UInt64 :=
  if cx < 0 ∨ cy < 0 ∨ s.widthWord / 2 ≤ cx ∨ s.heightWord / 2 ≤ cy then none
  else some (s.chromaWord cx cy).toUInt64

private theorem row_end_le {a b : Nat} {y : Int} (hy : y < b) : y * a + a ≤ (a : Int) * b := by
  have hrow : (y + 1) * a ≤ (b : Int) * a := Int.mul_le_mul_of_nonneg_right (by omega) (by omega)
  rw [Int.add_mul, Int.one_mul, Int.mul_comm (b : Int)] at hrow
  exact hrow

private theorem bmod_word {v : Int} (h0 : -9223372036854775808 ≤ v) (h1 : v < 9223372036854775808) :
    v.bmod 18446744073709551616 = v :=
  Int.bmod_eq_of_le (by omega) (by omega)

private theorem toInt_two : (2 : Int64).toInt = 2 := by decide

private theorem toInt_half {d : Int64} {n : Nat} (hd : d.toInt = n) :
    (d / 2).toInt = (n / 2 : Nat) := by
  have hlt := d.toInt_lt
  rw [Int64.toInt_div, hd, toInt_two, Int.tdiv_eq_ediv_of_nonneg (by omega)]
  exact bmod_word (by omega) (by omega)

private theorem toNat_toUInt64_of_toInt {w : Int64} {v : Int} (h : w.toInt = v) (hv : 0 ≤ v) :
    w.toUInt64.toNat = v.toNat := by
  have hnn : 0 ≤ w := by
    rw [Int64.le_iff_toInt_le, Int64.toInt_zero, h]
    exact hv
  rw [Int64.toNat_toUInt64_of_le hnn, ← Int64.toNat_toInt, h]

theorem blocks_le : s.width / 2 * (s.height / 2) * 2 ≤ s.width * s.height :=
  calc s.width / 2 * (s.height / 2) * 2 = s.width / 2 * 2 * (s.height / 2) := Nat.mul_right_comm _ _ _
    _ ≤ s.width * s.height := Nat.mul_le_mul (Nat.div_mul_le_self _ 2) (Nat.div_le_self _ 2)

variable {s}

namespace Addressable

variable (ha : s.Addressable)
include ha

theorem width_le : s.width ≤ isizeMax :=
  Nat.le_trans (Nat.le_mul_of_pos_right _ ha.height_pos) ha.area_le

theorem height_le : s.height ≤ isizeMax :=
  Nat.le_trans (Nat.le_mul_of_pos_left _ ha.width_pos) ha.area_le

theorem area_lt : (s.width : Int) * s.height < 9223372036854775808 := by
  have hle := ha.area_le
  unfold isizeMax at hle
  omega

theorem blocks_lt :
    ((s.width / 2 : Nat) : Int) * (s.height / 2 : Nat) * 2 < 9223372036854775808 := by
  have hblocks : ((s.width / 2 : Nat) : Int) * (s.height / 2 : Nat) * 2 ≤ (s.width : Int) * s.height := by
    exact_mod_cast s.blocks_le
  have := ha.area_lt
  omega

@[simp] theorem toInt_widthWord : s.widthWord.toInt = s.width :=
  Int64.toInt_ofNat_of_lt (by have := ha.width_le; unfold isizeMax at this; omega)

@[simp] theorem toInt_heightWord : s.heightWord.toInt = s.height :=
  Int64.toInt_ofNat_of_lt (by have := ha.height_le; unfold isizeMax at this; omega)

@[simp] theorem toInt_half_widthWord : (s.widthWord / 2).toInt = (s.width / 2 : Nat) :=
  toInt_half ha.toInt_widthWord

@[simp] theorem toInt_half_heightWord : (s.heightWord / 2).toInt = (s.height / 2 : Nat) :=
  toInt_half ha.toInt_heightWord

variable {x y cx cy : Int64}

theorem toInt_mul_widthWord (hy0 : 0 ≤ y.toInt) (hy : y.toInt < s.height) :
    (y * s.widthWord).toInt = y.toInt * s.width := by
  have hrow := row_end_le (a := s.width) hy
  have hnn : 0 ≤ y.toInt * s.width := Int.mul_nonneg hy0 (by omega)
  have hlt := ha.area_lt
  rw [Int64.toInt_mul, ha.toInt_widthWord]
  exact bmod_word (by omega) (by omega)

theorem toInt_lumaWord (hx0 : 0 ≤ x.toInt) (hx : x.toInt < s.width) (hy0 : 0 ≤ y.toInt)
    (hy : y.toInt < s.height) : (s.lumaWord x y).toInt = x.toInt + y.toInt * s.width := by
  have hrow := row_end_le (a := s.width) hy
  have hnn : 0 ≤ y.toInt * s.width := Int.mul_nonneg hy0 (by omega)
  have hlt := ha.area_lt
  rw [lumaWord, Int64.toInt_add, ha.toInt_mul_widthWord hy0 hy]
  exact bmod_word (by omega) (by omega)

theorem toInt_mul_half_widthWord (hy0 : 0 ≤ cy.toInt) (hy : cy.toInt < (s.height / 2 : Nat)) :
    (cy * (s.widthWord / 2)).toInt = cy.toInt * (s.width / 2 : Nat) := by
  have hrow := row_end_le (a := s.width / 2) hy
  have hnn : 0 ≤ cy.toInt * (s.width / 2 : Nat) := Int.mul_nonneg hy0 (by omega)
  have hlt := ha.blocks_lt
  rw [Int64.toInt_mul, ha.toInt_half_widthWord]
  exact bmod_word (by omega) (by omega)

theorem toInt_chromaWord (hx0 : 0 ≤ cx.toInt) (hx : cx.toInt < (s.width / 2 : Nat))
    (hy0 : 0 ≤ cy.toInt) (hy : cy.toInt < (s.height / 2 : Nat)) :
    (cx + cy * (s.widthWord / 2)).toInt = cx.toInt + cy.toInt * (s.width / 2 : Nat) ∧
      (s.chromaWord cx cy).toInt = (cx.toInt + cy.toInt * (s.width / 2 : Nat)) * 2 := by
  have hrow := row_end_le (a := s.width / 2) hy
  have hnn : 0 ≤ cy.toInt * (s.width / 2 : Nat) := Int.mul_nonneg hy0 (by omega)
  have hlt := ha.blocks_lt
  have hblock : (cx + cy * (s.widthWord / 2)).toInt = cx.toInt + cy.toInt * (s.width / 2 : Nat) := by
    rw [Int64.toInt_add, ha.toInt_mul_half_widthWord hy0 hy]
    exact bmod_word (by omega) (by omega)
  refine ⟨hblock, ?_⟩
  rw [chromaWord, Int64.toInt_mul, hblock, toInt_two]
  exact bmod_word (by omega) (by omega)

/-- On a frame whose plane fits one buffer, the 64-bit luma index is the exact one. -/
theorem lumaIndexWord?_toNat (x y : Int64) :
    (s.lumaIndexWord? x y).map UInt64.toNat = s.lumaIndex? x.toInt y.toInt := by
  have hguard : (x < 0 ∨ y < 0 ∨ s.widthWord ≤ x ∨ s.heightWord ≤ y) ↔
      ¬ (0 ≤ x.toInt ∧ x.toInt < s.width ∧ 0 ≤ y.toInt ∧ y.toInt < s.height) := by
    simp only [Int64.lt_iff_toInt_lt, Int64.le_iff_toInt_le, Int64.toInt_zero,
      ha.toInt_widthWord, ha.toInt_heightWord]
    omega
  unfold lumaIndexWord? lumaIndex?
  by_cases hin : 0 ≤ x.toInt ∧ x.toInt < s.width ∧ 0 ≤ y.toInt ∧ y.toInt < s.height
  · have hexact := ha.toInt_lumaWord hin.1 hin.2.1 hin.2.2.1 hin.2.2.2
    have hnn : 0 ≤ x.toInt + y.toInt * s.width :=
      Int.add_nonneg hin.1 (Int.mul_nonneg hin.2.2.1 (by omega))
    rw [if_neg (fun h => hguard.1 h hin), if_pos hin, Option.map_some,
      toNat_toUInt64_of_toInt hexact hnn]
  · rw [if_pos (hguard.2 hin), if_neg hin, Option.map_none]

theorem chromaIndexWord?_toNat (cx cy : Int64) :
    (s.chromaIndexWord? cx cy).map UInt64.toNat = s.chromaIndex? cx.toInt cy.toInt := by
  have hguard : (cx < 0 ∨ cy < 0 ∨ s.widthWord / 2 ≤ cx ∨ s.heightWord / 2 ≤ cy) ↔
      ¬ (0 ≤ cx.toInt ∧ cx.toInt < (s.width / 2 : Nat) ∧ 0 ≤ cy.toInt ∧
        cy.toInt < (s.height / 2 : Nat)) := by
    simp only [Int64.lt_iff_toInt_lt, Int64.le_iff_toInt_le, Int64.toInt_zero,
      ha.toInt_half_widthWord, ha.toInt_half_heightWord]
    omega
  unfold chromaIndexWord? chromaIndex?
  dsimp only
  by_cases hin : 0 ≤ cx.toInt ∧ cx.toInt < (s.width / 2 : Nat) ∧ 0 ≤ cy.toInt ∧
      cy.toInt < (s.height / 2 : Nat)
  · have hexact := (ha.toInt_chromaWord hin.1 hin.2.1 hin.2.2.1 hin.2.2.2).2
    have hnn : 0 ≤ (cx.toInt + cy.toInt * (s.width / 2 : Nat)) * 2 :=
      Int.mul_nonneg (Int.add_nonneg hin.1 (Int.mul_nonneg hin.2.2.1 (by omega))) (by omega)
    rw [if_neg (fun h => hguard.1 h hin), if_pos hin, Option.map_some,
      toNat_toUInt64_of_toInt hexact hnn]
  · rw [if_pos (hguard.2 hin), if_neg hin, Option.map_none]

end Addressable

/-! ## The index maps -/

variable (s)

theorem lumaIndex?_isSome_iff (x y : Int) :
    (s.lumaIndex? x y).isSome ↔ 0 ≤ x ∧ x < s.width ∧ 0 ≤ y ∧ y < s.height := by
  unfold lumaIndex?
  split
  · next hin => exact iff_of_true rfl hin
  · next hout => exact iff_of_false (by simp) hout

theorem chromaIndex?_isSome_iff (cx cy : Int) :
    (s.chromaIndex? cx cy).isSome ↔
      0 ≤ cx ∧ cx < (s.width / 2 : Nat) ∧ 0 ≤ cy ∧ cy < (s.height / 2 : Nat) := by
  unfold chromaIndex?
  dsimp only
  split
  · next hin => exact iff_of_true rfl hin
  · next hout => exact iff_of_false (by simp) hout

theorem exists_lumaIndex?_iff (n : Nat) :
    (∃ x y, s.lumaIndex? x y = some n) ↔ n < s.width * s.height := by
  constructor
  · rintro ⟨x, y, h⟩
    exact s.lumaIndex?_lt h
  · intro hn
    exact ⟨_, _, s.lumaIndex?_of_lt hn⟩

theorem exists_chromaIndex?_iff (hw : s.width % 2 = 0) (hh : s.height % 2 = 0) (m : Nat) :
    (∃ cx cy, s.chromaIndex? cx cy = some m) ↔ m < s.width * s.height / 2 ∧ m % 2 = 0 := by
  constructor
  · rintro ⟨cx, cy, h⟩
    exact ⟨Nat.lt_of_succ_lt (s.chromaIndex?_succ_lt hw hh h), s.chromaIndex?_even h⟩
  · rintro ⟨hm, heven⟩
    obtain ⟨cx, cy, base, hbase, hpair⟩ := s.chromaIndex?_of_lt hw hh hm
    have hbase_even := s.chromaIndex?_even hbase
    have hmb : m = base := by omega
    exact ⟨cx, cy, hmb ▸ hbase⟩

/-! ## Writes placed by the index helpers -/

/-- The number of bytes of plane `p` in a frame of this shape. -/
def planeSize : Plane → Nat
  | .luma => s.width * s.height
  | .chroma => s.width * s.height / 2

/-- A write placed by one of the index helpers. -/
def Addressed (w : Write) : Prop :=
  match w.plane with
  | .luma => ∃ x y, s.lumaIndex? x y = some w.index
  | .chroma => ∃ cx cy base, s.chromaIndex? cx cy = some base ∧ (w.index = base ∨ w.index = base + 1)

variable {s}

theorem addressed_luma {x y : Int} {n : Nat} (h : s.lumaIndex? x y = some n) (v : UInt8) :
    s.Addressed ⟨.luma, n, v⟩ :=
  ⟨x, y, h⟩

theorem addressed_chroma {cx cy : Int} {base n : Nat} (h : s.chromaIndex? cx cy = some base)
    (hn : n = base ∨ n = base + 1) (v : UInt8) : s.Addressed ⟨.chroma, n, v⟩ :=
  ⟨cx, cy, base, h, hn⟩

theorem Addressed.index_lt (hw : s.width % 2 = 0) (hh : s.height % 2 = 0) {w : Write}
    (h : s.Addressed w) : w.index < s.planeSize w.plane := by
  obtain ⟨plane, n, v⟩ := w
  cases plane with
  | luma =>
    obtain ⟨x, y, hn⟩ := h
    exact s.lumaIndex?_lt hn
  | chroma =>
    obtain ⟨cx, cy, base, hbase, hn⟩ := h
    change n = base ∨ n = base + 1 at hn
    have hpair := s.chromaIndex?_succ_lt hw hh hbase
    show n < s.width * s.height / 2
    omega

end Shape

namespace LumaKey

variable (k : LumaKey) (sh : Shape) (s : Sprite)

theorem lumaWrites_addressed (left top : Int) :
    ∀ w ∈ k.lumaWrites sh s left top, sh.Addressed w := by
  intro w hw
  simp only [lumaWrites, List.mem_flatMap, List.mem_filterMap] at hw
  obtain ⟨i, -, j, -, hj⟩ := hw
  split at hj
  · split at hj
    · obtain ⟨pt, hpt, rfl⟩ := Option.map_eq_some_iff.1 hj
      exact Shape.addressed_luma hpt _
    · cases hj
  · cases hj

theorem blockWrites_addressed (ci cj : Nat) (cx cy : Int) :
    ∀ w ∈ k.blockWrites sh s ci cj cx cy, sh.Addressed w := by
  intro w hw
  unfold blockWrites at hw
  split at hw
  · next key u v base _ _ hbase =>
    split at hw
    · -- U and V take the slots `0` and `1`, in the key's order
      have hu : k.uSlot < 2 := Nat.mod_lt _ (by decide)
      have hv : k.vSlot = 1 - k.uSlot := rfl
      simp only [List.mem_cons, List.not_mem_nil, or_false] at hw
      rcases hw with rfl | rfl <;> exact Shape.addressed_chroma hbase (by omega) _
    · cases hw
  · cases hw

theorem writes_addressed (ax ay : Int) : ∀ w ∈ k.writes sh s ax ay, sh.Addressed w := by
  intro w hw
  rw [writes_eq, List.mem_append] at hw
  rcases hw with hw | hw
  · exact k.lumaWrites_addressed sh s _ _ w hw
  · simp only [chromaWrites, List.mem_flatMap] at hw
    obtain ⟨ci, -, cj, -, hblock⟩ := hw
    exact k.blockWrites_addressed sh s _ _ _ _ w hblock

end LumaKey

namespace YuvKey

variable (k : YuvKey) (sh : Shape) (s : Sprite)

theorem pixelWrites_addressed (y u v : UInt8) (fx fy : Int) :
    ∀ w ∈ k.pixelWrites sh y u v fx fy, sh.Addressed w := by
  intro w hw
  simp only [pixelWrites, List.mem_append] at hw
  rcases hw with hw | hw
  · cases hl : sh.lumaIndex? fx fy with
    | none => simp [hl] at hw
    | some pt =>
      simp only [hl, List.mem_singleton] at hw
      exact hw ▸ Shape.addressed_luma hl y
  · cases hb : sh.chromaIndex? (fx / 2) (fy / 2) with
    | none => simp [hb] at hw
    | some base =>
      simp only [hb, List.mem_cons, List.not_mem_nil, or_false] at hw
      rcases hw with rfl | rfl
      · exact Shape.addressed_chroma hb (.inl rfl) _
      · exact Shape.addressed_chroma hb (.inr rfl) _

theorem writes_addressed (ax ay : Int) : ∀ w ∈ k.writes sh s ax ay, sh.Addressed w := by
  intro w hw
  rw [writes_eq] at hw
  simp only [List.mem_flatMap] at hw
  obtain ⟨i, -, j, -, hj⟩ := hw
  split at hj
  · exact k.pixelWrites_addressed sh _ _ _ _ _ w hj
  · cases hj

end YuvKey

theorem Key.writes_addressed (key : Key) (sh : Shape) (s : Sprite) (ax ay : Int) :
    ∀ w ∈ key.writes sh s ax ay, sh.Addressed w := by
  cases key with
  | luma k => exact k.writes_addressed sh s ax ay
  | yuv k => exact k.writes_addressed sh s ax ay

theorem Marker.writes_addressed (m : Marker) (sh : Shape) (anchors : List (Int × Int)) :
    ∀ w ∈ m.writes sh anchors, sh.Addressed w := by
  intro w hw
  obtain ⟨-, -, x, y, n, -, hn, rfl⟩ := Marker.mem_writes.1 hw
  exact Shape.addressed_luma hn 0

namespace Frame

variable (f : Frame)

theorem addressable (hfit : f.width * f.height ≤ isizeMax) : f.shape.Addressable :=
  ⟨f.dims.1, f.dims.2.1, hfit⟩

theorem size_plane (p : Plane) : (f.plane p).size = f.shape.planeSize p := by
  cases p
  · exact f.luma_size
  · exact f.chroma_size

theorem index_lt_of_addressed {w : Write} (h : f.shape.Addressed w) :
    w.index < (f.plane w.plane).size := by
  rw [size_plane]
  exact h.index_lt f.dims.2.2.1 f.dims.2.2.2

theorem applyFilter_size_plane (p : Preset) (q : Plane) :
    ((f.applyFilter p).plane q).size = (f.plane q).size := by
  rw [size_plane, size_plane]
  simp [shape]

/-- What the index helpers of a frame promise its writers, for every input. -/
structure IndexLaws : Prop where
  luma_isSome : ∀ x y : Int,
    (f.lumaIndex? x y).isSome ↔ 0 ≤ x ∧ x < f.width ∧ 0 ≤ y ∧ y < f.height
  luma_injective : ∀ {x y x' y' : Int} {n : Nat},
    f.lumaIndex? x y = some n → f.lumaIndex? x' y' = some n → x = x' ∧ y = y'
  luma_onto : ∀ n : Nat, (∃ x y, f.lumaIndex? x y = some n) ↔ n < f.width * f.height
  chroma_isSome : ∀ cx cy : Int, (f.chromaIndex? cx cy).isSome ↔
    0 ≤ cx ∧ cx < (f.width / 2 : Nat) ∧ 0 ≤ cy ∧ cy < (f.height / 2 : Nat)
  chroma_injective : ∀ {cx cy cx' cy' : Int} {m : Nat},
    f.chromaIndex? cx cy = some m → f.chromaIndex? cx' cy' = some m → cx = cx' ∧ cy = cy'
  chroma_onto : ∀ m : Nat,
    (∃ cx cy, f.chromaIndex? cx cy = some m) ↔ m < f.width * f.height / 2 ∧ m % 2 = 0
  chroma_pair_lt : ∀ {cx cy : Int} {base : Nat}, f.chromaIndex? cx cy = some base →
    base + 1 < f.chroma.size
  dims_exact : f.shape.widthWord.toInt = f.width ∧ f.shape.heightWord.toInt = f.height ∧
    (f.shape.widthWord / 2).toInt = (f.width / 2 : Nat) ∧
    (f.shape.heightWord / 2).toInt = (f.height / 2 : Nat)
  luma_exact : ∀ x y : Int64, (f.lumaIndex? x.toInt y.toInt).isSome →
    (y * f.shape.widthWord).toInt = y.toInt * f.width ∧
      (f.shape.lumaWord x y).toInt = x.toInt + y.toInt * f.width
  chroma_exact : ∀ cx cy : Int64, (f.chromaIndex? cx.toInt cy.toInt).isSome →
    (cy * (f.shape.widthWord / 2)).toInt = cy.toInt * (f.width / 2 : Nat) ∧
      (cx + cy * (f.shape.widthWord / 2)).toInt = cx.toInt + cy.toInt * (f.width / 2 : Nat) ∧
      (f.shape.chromaWord cx cy).toInt = (cx.toInt + cy.toInt * (f.width / 2 : Nat)) * 2
  luma_words : ∀ x y : Int64,
    (f.shape.lumaIndexWord? x y).map UInt64.toNat = f.lumaIndex? x.toInt y.toInt
  chroma_words : ∀ cx cy : Int64,
    (f.shape.chromaIndexWord? cx cy).map UInt64.toNat = f.chromaIndex? cx.toInt cy.toInt
  composite_in_bounds : ∀ (key : Key) (s : Sprite) (ax ay : Int),
    ∀ w ∈ key.writes f.shape s ax ay, w.index < (f.plane w.plane).size
  markers_in_bounds : ∀ (m : Marker) (anchors : List (Int × Int)),
    ∀ w ∈ m.writes f.shape anchors, w.index < (f.plane w.plane).size
  filter_keeps_sizes : ∀ (p : Preset) (q : Plane),
    ((f.applyFilter p).plane q).size = (f.plane q).size

end Frame

/-- On a frame whose luma plane fits one buffer, the index helpers are exact, their 64-bit
arithmetic never wraps, and every writer stays inside the planes. -/
theorem frame_index_laws (f : Frame) (hfit : f.width * f.height ≤ isizeMax) : f.IndexLaws := by
  have ha := f.addressable hfit
  have hw := f.dims.2.2.1
  have hh := f.dims.2.2.2
  exact {
    luma_isSome := f.shape.lumaIndex?_isSome_iff
    luma_injective := f.shape.lumaIndex?_inj
    luma_onto := f.shape.exists_lumaIndex?_iff
    chroma_isSome := f.shape.chromaIndex?_isSome_iff
    chroma_injective := f.shape.chromaIndex?_inj
    chroma_onto := f.shape.exists_chromaIndex?_iff hw hh
    chroma_pair_lt := fun h => f.chroma_size ▸ f.shape.chromaIndex?_succ_lt hw hh h
    dims_exact := ⟨ha.toInt_widthWord, ha.toInt_heightWord, ha.toInt_half_widthWord,
      ha.toInt_half_heightWord⟩
    luma_exact := fun x y h => by
      obtain ⟨hx0, hx, hy0, hy⟩ := (f.shape.lumaIndex?_isSome_iff _ _).1 h
      exact ⟨ha.toInt_mul_widthWord hy0 hy, ha.toInt_lumaWord hx0 hx hy0 hy⟩
    chroma_exact := fun cx cy h => by
      obtain ⟨hx0, hx, hy0, hy⟩ := (f.shape.chromaIndex?_isSome_iff _ _).1 h
      exact ⟨ha.toInt_mul_half_widthWord hy0 hy, ha.toInt_chromaWord hx0 hx hy0 hy⟩
    luma_words := ha.lumaIndexWord?_toNat
    chroma_words := ha.chromaIndexWord?_toNat
    composite_in_bounds := fun key s ax ay w hmem =>
      f.index_lt_of_addressed (key.writes_addressed f.shape s ax ay w hmem)
    markers_in_bounds := fun m anchors w hmem =>
      f.index_lt_of_addressed (m.writes_addressed f.shape anchors w hmem)
    filter_keeps_sizes := f.applyFilter_size_plane }

/-- The widest frame whose luma plane fits one buffer, `(2 ^ 32 - 2) x 2 ^ 31`. -/
noncomputable def widestFrame : Frame :=
  ⟨4294967294, 2147483648, Array.replicate (4294967294 * 2147483648) 0,
    Array.replicate (4294967294 * 2147483648 / 2) 128, by decide, by simp, by simp⟩

theorem frame_index_laws_widest_frame :
    widestFrame.width * widestFrame.height ≤ isizeMax ∧ widestFrame.IndexLaws :=
  ⟨by decide, frame_index_laws widestFrame (by decide)⟩

end CameraOverlay
