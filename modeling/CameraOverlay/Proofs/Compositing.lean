import CameraOverlay.Composite.Blit
import CameraOverlay.Proofs.Overwrite
import CameraOverlay.Proofs.FrameIndex
/-!
# What each key writes, byte by byte

The writes of a key are read back through `Write.lastAt`, one plane at a time, as a scan over
the sprite's pixels (or, for the chroma pass of a luma key, its blocks): `gridLast` of what each
pixel leaves on the byte. A pixel leaves its luma on the luma byte under it, and its stored pair
on the two chroma bytes of the block under it (`pairByte`).

The main statement of the module: compositing with either key overwrites a set of bytes fixed
by the key, the sprite, the anchor and the frame's dimensions, with values fixed by the same
data, whatever the frame held before. So compositing the same sprite twice at the same place
gives the frame that compositing it once gives, with a YUV key as with a luma key.
-/

namespace CameraOverlay

/-- The byte a chroma pair whose first byte is at `base` leaves at index `m`. -/
def pairByte (base m : Nat) (pair : UInt8 × UInt8) : Option UInt8 :=
  if m = base then some pair.1 else if m = base + 1 then some pair.2 else none

theorem pairByte_eq_none {base m : Nat} (h : m ≠ base ∧ m ≠ base + 1) (pair : UInt8 × UInt8) :
    pairByte base m pair = none := by
  simp [pairByte, h.1, h.2]

theorem Write.lastAt_pair (base m : Nat) (x : UInt8 × UInt8) :
    Write.lastAt [⟨.chroma, base, x.1⟩, ⟨.chroma, base + 1, x.2⟩] .chroma m = pairByte base m x := by
  simp only [Write.lastAt_cons, Write.lastAt_nil, Write.valueAt_mk, true_and, Option.none_or,
    pairByte]
  by_cases h0 : m = base
  · subst h0
    simp
  · by_cases h1 : m = base + 1
    · subst h1
      simp
    · simp [h0, h1, Ne.symm h0, Ne.symm h1]

theorem Write.lastAt_pair_swap (base m : Nat) (x : UInt8 × UInt8) :
    Write.lastAt [⟨.chroma, base + 1, x.2⟩, ⟨.chroma, base, x.1⟩] .chroma m = pairByte base m x := by
  rw [← Write.lastAt_pair]
  by_cases h0 : m = base
  · subst h0
    simp [Write.lastAt_cons]
  · simp [Write.lastAt_cons, Ne.symm h0]

theorem pairByte_of_mem {base m : Nat} (h : m = base ∨ m = base + 1) (pair : UInt8 × UInt8) :
    ∃ a, pairByte base m pair = some a := by
  rcases h with rfl | rfl <;> simp [pairByte]

theorem bind_pairByte_eq_none {o : Option Nat} {m : Nat} (pair : UInt8 × UInt8)
    (h : ∀ base, o = some base → m ≠ base ∧ m ≠ base + 1) :
    (o.bind fun base => pairByte base m pair) = none := by
  cases o with
  | none => rfl
  | some base => exact pairByte_eq_none (h base rfl) pair

/-- What a pixel at `(fx, fy)` that writes luma `y` leaves at luma index `n`. -/
def Shape.lumaByteAt (sh : Shape) (n : Nat) (fx fy : Int) (y : UInt8) : Option UInt8 :=
  if sh.lumaIndex? fx fy = some n then some y else none

theorem gridLast_lumaByteAt {α : Type} {sh : Shape} {w h x y n : Nat} {left top : Int}
    (g : Nat → Nat → Option α) (val : α → UInt8) (hx : x < w) (hy : y < h)
    (hn : sh.lumaIndex? (left + x) (top + y) = some n) :
    (gridLast w h fun i j => (g i j).bind fun a => sh.lumaByteAt n (left + i) (top + j) (val a)) =
      (g x y).map val := by
  rw [gridLast_of_unique hx hy]
  · cases g x y with
    | none => rfl
    | some a => simp [Shape.lumaByteAt, hn]
  · intro i j _ _ hne
    cases g i j with
    | none => rfl
    | some a =>
      have hother : sh.lumaIndex? (left + i) (top + j) ≠ some n := by
        intro hij
        obtain ⟨hxi, hyj⟩ := sh.lumaIndex?_inj hn hij
        apply hne
        simp only [Prod.mk.injEq]
        omega
      simp [Shape.lumaByteAt, hother]

namespace Sprite

variable (s : Sprite) {i j : Nat} {y : UInt8}

theorem lumaAt?_of_lt (hi : i < s.width) (hj : j < s.height) : ∃ y, s.lumaAt? i j = some y := by
  have hlt : i * s.height + j < s.luma.size := by
    rw [s.luma_size]
    calc i * s.height + j < (i + 1) * s.height := by rw [Nat.succ_mul]; omega
      _ ≤ s.width * s.height := Nat.mul_le_mul_right _ hi
  exact ⟨s.luma[i * s.height + j], by simp [lumaAt?, hi, hj, hlt]⟩

theorem lumaAt?_mem (h : s.lumaAt? i j = some y) : y ∈ s.luma := by
  unfold lumaAt? at h
  split at h
  · exact Array.mem_of_getElem? h
  · cases h

theorem chromaAt?_of_lt (hi : i < s.width / 2) (hj : j < s.height / 2) :
    ∃ u v, s.chromaAt? i j = some (u, v) := by
  obtain ⟨-, -, hw, hh⟩ := s.dims
  have hblock : i * (s.height / 2) + j < s.width / 2 * (s.height / 2) :=
    calc i * (s.height / 2) + j < (i + 1) * (s.height / 2) := by rw [Nat.succ_mul]; omega
      _ ≤ s.width / 2 * (s.height / 2) := Nat.mul_le_mul_right _ hi
  have hsize : s.width / 2 * (s.height / 2) * 2 ≤ s.chroma.size := by
    rw [s.chroma_size]
    obtain ⟨a, ha⟩ : ∃ a, s.width = 2 * a := ⟨s.width / 2, by omega⟩
    obtain ⟨b, hb⟩ : ∃ b, s.height = 2 * b := ⟨s.height / 2, by omega⟩
    rw [ha, hb, Nat.mul_div_cancel_left _ (by decide : 0 < 2),
      Nat.mul_div_cancel_left _ (by decide : 0 < 2), Nat.mul_mul_mul_comm]
    omega
  have hlt : (i * (s.height / 2) + j) * 2 + 1 < s.chroma.size := by omega
  refine ⟨s.chroma[(i * (s.height / 2) + j) * 2], s.chroma[(i * (s.height / 2) + j) * 2 + 1], ?_⟩
  simp [chromaAt?, hi, hj, hlt, Nat.lt_of_succ_lt hlt]

end Sprite

namespace LumaKey

variable (k : LumaKey) (sh : Shape) (s : Sprite)

/-- The order in which the key stores a block's `(U, V)`: U in slot `uSlot`, V in the other. -/
def storedPair (u v : UInt8) : UInt8 × UInt8 := if k.uSlot = 0 then (u, v) else (v, u)

/-- The luma of pixel `(i, j)` when it passes the key. -/
def passing (i j : Nat) : Option UInt8 :=
  match s.lumaAt? i j with
  | some y => if y ≤ k.threshold then some y else none
  | none => none

theorem writes_eq (ax ay : Int) :
    k.writes sh s ax ay = k.lumaWrites sh s (s.topLeft ax ay).1 (s.topLeft ax ay).2 ++
      k.chromaWrites sh s (s.topLeft ax ay).1 (s.topLeft ax ay).2 := rfl

theorem lastAt_lumaWrites_luma (left top : Int) (n : Nat) :
    Write.lastAt (k.lumaWrites sh s left top) .luma n =
      gridLast s.width s.height fun i j =>
        (k.passing s i j).bind (sh.lumaByteAt n (left + i) (top + j)) := by
  simp only [lumaWrites, Write.lastAt_flatMap, Write.lastAt_filterMap, gridLast]
  apply findSome?_reverse_range_congr
  intro i _
  apply findSome?_reverse_range_congr
  intro j _
  unfold passing Shape.lumaByteAt
  cases s.lumaAt? i j with
  | none => rfl
  | some y =>
    by_cases hy : y ≤ k.threshold
    · cases sh.lumaIndex? (left + i) (top + j) <;> simp [hy, Write.valueAt]
    · simp [hy]

theorem lastAt_lumaWrites_chroma (left top : Int) (m : Nat) :
    Write.lastAt (k.lumaWrites sh s left top) .chroma m = none := by
  simp only [lumaWrites, Write.lastAt_flatMap, Write.lastAt_filterMap]
  apply findSome?_reverse_range_eq_none
  intro i _
  apply findSome?_reverse_range_eq_none
  intro j _
  cases s.lumaAt? i j with
  | none => rfl
  | some y =>
    by_cases hy : y ≤ k.threshold
    · cases sh.lumaIndex? (left + i) (top + j) <;> simp [hy, Write.valueAt]
    · simp [hy]

theorem lastAt_blockWrites_luma (ci cj : Nat) (cx cy : Int) (n : Nat) :
    Write.lastAt (k.blockWrites sh s ci cj cx cy) .luma n = none := by
  unfold blockWrites
  split
  · split <;> simp [Write.lastAt_cons]
  · rfl

theorem lastAt_blockWrites_chroma {ci cj : Nat} {cx cy : Int} {key u v : UInt8} {base : Nat}
    (hkey : s.lumaAt? (ci * 2) (cj * 2) = some key) (hpass : key ≤ k.threshold)
    (huv : s.chromaAt? ci cj = some (u, v)) (hbase : sh.chromaIndex? cx cy = some base) (m : Nat) :
    Write.lastAt (k.blockWrites sh s ci cj cx cy) .chroma m = pairByte base m (k.storedPair u v) := by
  simp only [blockWrites, hkey, huv, hbase, hpass, if_true, storedPair]
  rcases Nat.mod_two_eq_zero_or_one k.chromaOffset with h | h
  · have hu : k.uSlot = 0 := h
    have hv : k.vSlot = 1 := by simp [vSlot, hu]
    rw [hu, hv, Nat.add_zero, if_pos rfl]
    exact Write.lastAt_pair base m (u, v)
  · have hu : k.uSlot = 1 := h
    have hv : k.vSlot = 0 := by simp [vSlot, hu]
    rw [hu, hv, Nat.add_zero, if_neg (by decide)]
    exact Write.lastAt_pair_swap base m (v, u)

theorem lastAt_blockWrites_chroma_eq_none {ci cj : Nat} {cx cy : Int} {m : Nat}
    (hm : ∀ base, sh.chromaIndex? cx cy = some base → m ≠ base ∧ m ≠ base + 1) :
    Write.lastAt (k.blockWrites sh s ci cj cx cy) .chroma m = none := by
  unfold blockWrites
  split
  · next key u v base _ _ hbase =>
    have hu : k.uSlot < 2 := Nat.mod_lt _ (by decide)
    have hv : k.vSlot = 1 - k.uSlot := rfl
    have hne := hm base hbase
    split
    · apply Write.lastAt_eq_none
      simp only [List.mem_cons, List.not_mem_nil, or_false, forall_eq_or_imp, forall_eq,
        Write.valueAt_mk, true_and, ite_eq_right_iff, reduceCtorEq, imp_false]
      omega
    · rfl
  · rfl

theorem lastAt_chromaWrites (left top : Int) (p : Plane) (m : Nat) :
    Write.lastAt (k.chromaWrites sh s left top) p m =
      gridLast (s.width / 2) (s.height / 2) fun ci cj =>
        Write.lastAt (k.blockWrites sh s ci cj (left / 2 + ci) (top / 2 + cj)) p m :=
  Write.lastAt_grid _ _ _ p m

theorem lastAt_chromaWrites_luma (left top : Int) (n : Nat) :
    Write.lastAt (k.chromaWrites sh s left top) .luma n = none := by
  rw [lastAt_chromaWrites]
  exact gridLast_eq_none (fun ci cj _ _ => k.lastAt_blockWrites_luma sh s ci cj _ _ n)

theorem lastAt_writes_luma (ax ay : Int) (n : Nat) :
    Write.lastAt (k.writes sh s ax ay) .luma n =
      gridLast s.width s.height fun i j =>
        (k.passing s i j).bind
          (sh.lumaByteAt n ((s.topLeft ax ay).1 + i) ((s.topLeft ax ay).2 + j)) := by
  rw [writes_eq, Write.lastAt_append, lastAt_chromaWrites_luma, Option.none_or,
    lastAt_lumaWrites_luma]

theorem lastAt_writes_chroma_eq_none (ax ay : Int) {m : Nat}
    (hm : ∀ ci cj base, ci < s.width / 2 → cj < s.height / 2 →
      sh.chromaIndex? ((s.topLeft ax ay).1 / 2 + ci) ((s.topLeft ax ay).2 / 2 + cj) = some base →
      m ≠ base ∧ m ≠ base + 1) :
    Write.lastAt (k.writes sh s ax ay) .chroma m = none := by
  rw [writes_eq, Write.lastAt_append, lastAt_lumaWrites_chroma, Option.or_none,
    lastAt_chromaWrites]
  apply gridLast_eq_none
  intro ci cj hci hcj
  exact k.lastAt_blockWrites_chroma_eq_none sh s (fun base hb => hm ci cj base hci hcj hb)

theorem lastAt_writes_chroma_of_block (ax ay : Int) {ci cj : Nat} {key u v : UInt8} {base m : Nat}
    (hci : ci < s.width / 2) (hcj : cj < s.height / 2)
    (hkey : s.lumaAt? (ci * 2) (cj * 2) = some key) (hpass : key ≤ k.threshold)
    (huv : s.chromaAt? ci cj = some (u, v))
    (hbase : sh.chromaIndex? ((s.topLeft ax ay).1 / 2 + ci) ((s.topLeft ax ay).2 / 2 + cj) =
      some base)
    (hm : m = base ∨ m = base + 1) :
    Write.lastAt (k.writes sh s ax ay) .chroma m = pairByte base m (k.storedPair u v) := by
  rw [writes_eq, Write.lastAt_append, lastAt_lumaWrites_chroma, Option.or_none,
    lastAt_chromaWrites, gridLast_of_unique hci hcj]
  · exact k.lastAt_blockWrites_chroma sh s hkey hpass huv hbase m
  · intro ci' cj' _ _ hne
    apply k.lastAt_blockWrites_chroma_eq_none sh s
    intro base' hbase'
    apply sh.chromaIndex?_pair_disjoint hbase hbase' _ hm
    intro heq
    apply hne
    simp only [Prod.mk.injEq] at heq ⊢
    omega

end LumaKey

namespace YuvKey

variable (k : YuvKey) (sh : Shape) (s : Sprite)

/-- Pixel `(i, j)` as the key sees it: its luma and its block's chroma, unless background. -/
def visible (i j : Nat) : Option (UInt8 × UInt8 × UInt8) :=
  match s.lumaAt? i j, s.chromaAt? (i / 2) (j / 2) with
  | some y, some (u, v) => if k.isBackground y u v then none else some (y, u, v)
  | _, _ => none

theorem writes_eq (ax ay : Int) :
    k.writes sh s ax ay = (List.range s.width).flatMap fun i => (List.range s.height).flatMap fun j =>
      match k.visible s i j with
      | some (y, u, v) => k.pixelWrites sh y u v ((s.topLeft ax ay).1 + i) ((s.topLeft ax ay).2 + j)
      | none => [] := by
  simp only [writes]
  congr 1
  funext i
  congr 1
  funext j
  unfold visible
  split <;> (try split) <;> simp_all

theorem lastAt_pixelWrites_luma (y u v : UInt8) (fx fy : Int) (n : Nat) :
    Write.lastAt (k.pixelWrites sh y u v fx fy) .luma n = sh.lumaByteAt n fx fy y := by
  unfold pixelWrites Shape.lumaByteAt
  cases hl : sh.lumaIndex? fx fy <;> cases hb : sh.chromaIndex? (fx / 2) (fy / 2) <;>
    cases hp : k.storedPair u v <;> simp [Write.lastAt_cons]

theorem lastAt_pixelWrites_chroma (y u v : UInt8) (fx fy : Int) (m : Nat) :
    Write.lastAt (k.pixelWrites sh y u v fx fy) .chroma m =
      (sh.chromaIndex? (fx / 2) (fy / 2)).bind fun base => pairByte base m (k.storedPair u v) := by
  unfold pixelWrites
  cases hl : sh.lumaIndex? fx fy <;> cases hb : sh.chromaIndex? (fx / 2) (fy / 2) <;>
    cases hp : k.storedPair u v <;>
    simp only [Write.lastAt_append, Option.bind_none, Option.bind_some, ← Write.lastAt_pair] <;>
    simp [Write.lastAt_cons]

/-- Every byte the key writes, read back as a scan over the visible pixels. -/
theorem lastAt_writes (ax ay : Int) (p : Plane) (n : Nat) :
    Write.lastAt (k.writes sh s ax ay) p n =
      gridLast s.width s.height fun i j =>
        (k.visible s i j).bind fun pix =>
          Write.lastAt (k.pixelWrites sh pix.1 pix.2.1 pix.2.2
            ((s.topLeft ax ay).1 + i) ((s.topLeft ax ay).2 + j)) p n := by
  rw [writes_eq, Write.lastAt_grid]
  apply gridLast_congr
  intro i j _ _
  cases k.visible s i j <;> rfl

theorem lastAt_writes_luma (ax ay : Int) (n : Nat) :
    Write.lastAt (k.writes sh s ax ay) .luma n =
      gridLast s.width s.height fun i j =>
        (k.visible s i j).bind fun pix =>
          sh.lumaByteAt n ((s.topLeft ax ay).1 + i) ((s.topLeft ax ay).2 + j) pix.1 := by
  simp only [lastAt_writes, lastAt_pixelWrites_luma]

theorem lastAt_writes_chroma (ax ay : Int) (m : Nat) :
    Write.lastAt (k.writes sh s ax ay) .chroma m =
      gridLast s.width s.height fun i j =>
        (k.visible s i j).bind fun pix =>
          (sh.chromaIndex? (((s.topLeft ax ay).1 + i) / 2) (((s.topLeft ax ay).2 + j) / 2)).bind
            fun base => pairByte base m (k.storedPair pix.2.1 pix.2.2) := by
  simp only [lastAt_writes, lastAt_pixelWrites_chroma]

theorem lastAt_writes_chroma_eq_none (ax ay : Int) {m : Nat}
    (hm : ∀ i j base, i < s.width → j < s.height →
      sh.chromaIndex? (((s.topLeft ax ay).1 + i) / 2) (((s.topLeft ax ay).2 + j) / 2) = some base →
      m ≠ base ∧ m ≠ base + 1) :
    Write.lastAt (k.writes sh s ax ay) .chroma m = none := by
  rw [lastAt_writes_chroma]
  apply gridLast_eq_none
  intro i j hi hj
  cases k.visible s i j with
  | none => rfl
  | some pix => exact bind_pairByte_eq_none _ (hm i j · hi hj)

theorem lastAt_writes_chroma_of_last (ax ay : Int) {i j : Nat} {y u v : UInt8} {base m : Nat}
    (hi : i < s.width) (hj : j < s.height) (hvis : k.visible s i j = some (y, u, v))
    (hbase : sh.chromaIndex? (((s.topLeft ax ay).1 + i) / 2) (((s.topLeft ax ay).2 + j) / 2) =
      some base)
    (hm : m = base ∨ m = base + 1)
    (hlater : ∀ i' j', i' < s.width → j' < s.height → VisitedAfter i j i' j' →
      k.visible s i' j' ≠ none →
      ((((s.topLeft ax ay).1 + i') / 2, ((s.topLeft ax ay).2 + j') / 2) : Int × Int) ≠
        ((((s.topLeft ax ay).1 + i) / 2, ((s.topLeft ax ay).2 + j) / 2) : Int × Int)) :
    Write.lastAt (k.writes sh s ax ay) .chroma m = pairByte base m (k.storedPair u v) := by
  obtain ⟨a, ha⟩ := pairByte_of_mem hm (k.storedPair u v)
  rw [lastAt_writes_chroma, ha]
  apply gridLast_of_last hi hj (by simp [hvis, hbase, ha])
  intro i' j' hi' hj' hafter
  cases hvis' : k.visible s i' j' with
  | none => rfl
  | some pix =>
    have hne := hlater i' j' hi' hj' hafter (by simp [hvis'])
    refine bind_pairByte_eq_none _ (fun base' hbase' => ?_)
    exact sh.chromaIndex?_pair_disjoint hbase hbase' hne hm

end YuvKey

@[simp] theorem Key.writes_luma (k : LumaKey) (sh : Shape) (s : Sprite) (ax ay : Int) :
    (Key.luma k).writes sh s ax ay = k.writes sh s ax ay := rfl

@[simp] theorem Key.writes_yuv (k : YuvKey) (sh : Shape) (s : Sprite) (ax ay : Int) :
    (Key.yuv k).writes sh s ax ay = k.writes sh s ax ay := rfl

theorem Frame.composite_plane_getElem? (f : Frame) (key : Key) (s : Sprite) (ax ay : Int)
    (p : Plane) (n : Nat) :
    ((f.composite key s ax ay).plane p)[n]? =
      ((f.plane p)[n]?).map fun b => (Write.lastAt (key.writes f.shape s ax ay) p n).getD b :=
  f.overwrite_plane_getElem? _ p n

/-- Compositing overwrites bytes chosen by the key, the sprite, the anchor and the frame's
dimensions alone, so compositing twice is compositing once. -/
theorem composite_overwrites_fixed_bytes (key : Key) (s : Sprite) (ax ay : Int) (shape : Shape) :
    ∃ M : Plane → Nat → Option UInt8, ∀ f : Frame, f.shape = shape →
      (f.composite key s ax ay).shape = f.shape ∧
      (∀ p n, ((f.composite key s ax ay).plane p)[n]? =
        ((f.plane p)[n]?).map fun b => (M p n).getD b) ∧
      (f.composite key s ax ay).composite key s ax ay = f.composite key s ax ay := by
  refine ⟨fun p n => Write.lastAt (key.writes shape s ax ay) p n, ?_⟩
  intro f hf
  subst hf
  refine ⟨f.overwrite_shape _, f.composite_plane_getElem? key s ax ay, ?_⟩
  unfold Frame.composite
  rw [Frame.overwrite_shape]
  exact f.overwrite_overwrite_self _

end CameraOverlay
