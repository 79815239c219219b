import CameraOverlay.Proofs.Compositing
/-!
# A luma key and a YUV key agree on opaque sprites

When every pixel of a sprite passes both keys, the two keys copy the same luma. They reach the
chroma plane by different routes. The luma key lays the sprite's block grid on the frame's,
starting at the block that holds the top-left pixel (`Sprite.blockOrigin`), and stores each
sprite block on the frame block under it. The YUV key lets every pixel store its own block's
pair on the frame block it falls in, the last pixel in column-major order winning. Inside the
grid the last pixel of a frame block always belongs to the sprite block the luma key stores
there, so both keys leave the same pair. Only an odd left or top edge lets the YUV key reach one
block column or row past the grid (`Sprite.OverhangBlock`), which the luma key never writes.
-/

namespace CameraOverlay

namespace Sprite

variable (s : Sprite)

/-- The frame block that holds the sprite's top-left pixel when it is centred on `(ax, ay)`. -/
def blockOrigin (ax ay : Int) : Int × Int := ((s.topLeft ax ay).1 / 2, (s.topLeft ax ay).2 / 2)

/-- Frame block `(cx, cy)` is one that a sprite block lands on under a luma key. -/
def InBlockGrid (ax ay cx cy : Int) : Prop :=
  (s.blockOrigin ax ay).1 ≤ cx ∧ cx < (s.blockOrigin ax ay).1 + (s.width / 2 : Nat) ∧
    (s.blockOrigin ax ay).2 ≤ cy ∧ cy < (s.blockOrigin ax ay).2 + (s.height / 2 : Nat)

/-- Frame block `(cx, cy)` lies just past the sprite's block grid across an odd edge. -/
def OverhangBlock (ax ay cx cy : Int) : Prop :=
  ((s.topLeft ax ay).1 % 2 = 1 ∧ cx = (s.blockOrigin ax ay).1 + (s.width / 2 : Nat)) ∨
    ((s.topLeft ax ay).2 % 2 = 1 ∧ cy = (s.blockOrigin ax ay).2 + (s.height / 2 : Nat))

/-- Every pixel passes the luma key and none is background for the YUV key. -/
def OpaqueUnder (k : LumaKey) (k' : YuvKey) : Prop :=
  (∀ i j y, s.lumaAt? i j = some y → y ≤ k.threshold) ∧
    ∀ i j y u v, s.lumaAt? i j = some y → s.chromaAt? (i / 2) (j / 2) = some (u, v) →
      k'.isBackground y u v = false

@[simp] theorem blockOrigin_fst (ax ay : Int) : (s.blockOrigin ax ay).1 = (s.topLeft ax ay).1 / 2 :=
  rfl

@[simp] theorem blockOrigin_snd (ax ay : Int) : (s.blockOrigin ax ay).2 = (s.topLeft ax ay).2 / 2 :=
  rfl

theorem not_inBlockGrid_of_overhang {ax ay cx cy : Int} (h : s.OverhangBlock ax ay cx cy) :
    ¬ s.InBlockGrid ax ay cx cy := by
  unfold OverhangBlock at h
  unfold InBlockGrid
  omega

end Sprite

theorem Frame.composite_plane_congr (f : Frame) {key key' : Key} (s : Sprite) (ax ay : Int)
    {p : Plane} {n : Nat}
    (h : Write.lastAt (key.writes f.shape s ax ay) p n = Write.lastAt (key'.writes f.shape s ax ay) p n) :
    ((f.composite key s ax ay).plane p)[n]? = ((f.composite key' s ax ay).plane p)[n]? := by
  rw [f.composite_plane_getElem?, f.composite_plane_getElem?, h]

section Agreement

variable {sh : Shape} {s : Sprite} {ax ay : Int} {k : LumaKey} {k' : YuvKey}

theorem LumaKey.storedPair_eq_of_swap (hswap : k'.swapChroma = (k.chromaOffset % 2 == 1))
    (u v : UInt8) : k.storedPair u v = k'.storedPair u v := by
  unfold LumaKey.storedPair YuvKey.storedPair LumaKey.uSlot
  rcases Nat.mod_two_eq_zero_or_one k.chromaOffset with h | h <;> simp [hswap, h]

theorem Sprite.OpaqueUnder.visible (ho : s.OpaqueUnder k k') {i j : Nat} (hi : i < s.width)
    (hj : j < s.height) :
    ∃ y u v, s.lumaAt? i j = some y ∧ k.passing s i j = some y ∧
      k'.visible s i j = some (y, u, v) ∧ s.chromaAt? (i / 2) (j / 2) = some (u, v) := by
  obtain ⟨y, hy⟩ := s.lumaAt?_of_lt hi hj
  have hw := s.dims.2.2.1
  have hh := s.dims.2.2.2
  obtain ⟨u, v, huv⟩ := s.chromaAt?_of_lt (i := i / 2) (j := j / 2) (by omega) (by omega)
  refine ⟨y, u, v, hy, ?_, ?_, huv⟩
  · simp [LumaKey.passing, hy, ho.1 i j y hy]
  · simp [YuvKey.visible, hy, huv, ho.2 i j y u v hy huv]

theorem lastAt_luma_eq_of_opaque_sprite (ho : s.OpaqueUnder k k') (n : Nat) :
    Write.lastAt (k.writes sh s ax ay) .luma n = Write.lastAt (k'.writes sh s ax ay) .luma n := by
  rw [LumaKey.lastAt_writes_luma, YuvKey.lastAt_writes_luma]
  apply gridLast_congr
  intro i j hi hj
  obtain ⟨y, u, v, -, hpass, hvis, -⟩ := ho.visible hi hj
  rw [hpass, hvis]
  rfl

theorem lastAt_chroma_eq_in_grid (ho : s.OpaqueUnder k k')
    (hswap : k'.swapChroma = (k.chromaOffset % 2 == 1)) {ci cj base m : Nat}
    (hci : ci < s.width / 2) (hcj : cj < s.height / 2)
    (hbase : sh.chromaIndex? ((s.blockOrigin ax ay).1 + ci) ((s.blockOrigin ax ay).2 + cj) =
      some base)
    (hm : m = base ∨ m = base + 1) :
    Write.lastAt (k.writes sh s ax ay) .chroma m = Write.lastAt (k'.writes sh s ax ay) .chroma m := by
  have hw := s.dims.2.2.1
  have hh := s.dims.2.2.2
  obtain ⟨key, u, v, hkey, -, -, huv⟩ := ho.visible (i := ci * 2) (j := cj * 2) (by omega) (by omega)
  rw [Nat.mul_div_cancel _ (by decide : 0 < 2), Nat.mul_div_cancel _ (by decide : 0 < 2)] at huv
  rw [k.lastAt_writes_chroma_of_block sh s ax ay hci hcj hkey (ho.1 _ _ _ hkey) huv hbase hm,
    LumaKey.storedPair_eq_of_swap hswap]
  obtain ⟨i, hi, hi2, hil⟩ : ∃ i, i < s.width ∧ i / 2 = ci ∧
      (s.topLeft ax ay).1 + i = 2 * ((s.topLeft ax ay).1 / 2 + ci) + 1 := by
    rcases Int.emod_two_eq (s.topLeft ax ay).1 with h | h
    · exact ⟨2 * ci + 1, by omega, by omega, by omega⟩
    · exact ⟨2 * ci, by omega, by omega, by omega⟩
  obtain ⟨j, hj, hj2, hjt⟩ : ∃ j, j < s.height ∧ j / 2 = cj ∧
      (s.topLeft ax ay).2 + j = 2 * ((s.topLeft ax ay).2 / 2 + cj) + 1 := by
    rcases Int.emod_two_eq (s.topLeft ax ay).2 with h | h
    · exact ⟨2 * cj + 1, by omega, by omega, by omega⟩
    · exact ⟨2 * cj, by omega, by omega, by omega⟩
  obtain ⟨y, u', v', -, -, hvis, huv'⟩ := ho.visible hi hj
  rw [hi2, hj2, huv] at huv'
  cases huv'
  have hcorner : (((s.topLeft ax ay).1 + i) / 2, ((s.topLeft ax ay).2 + j) / 2) =
      ((s.blockOrigin ax ay).1 + ci, (s.blockOrigin ax ay).2 + cj) := by
    simp only [Sprite.blockOrigin_fst, Sprite.blockOrigin_snd, Prod.mk.injEq]
    omega
  simp only [Prod.mk.injEq] at hcorner
  symm
  apply k'.lastAt_writes_chroma_of_last sh s ax ay hi hj hvis (by rw [hcorner.1, hcorner.2]; exact hbase) hm
  intro i' j' hi' hj' hafter _ heq
  simp only [Prod.mk.injEq] at heq
  unfold VisitedAfter at hafter
  omega

theorem LumaKey.lastAt_chroma_off_grid {cx cy : Int} {base m : Nat}
    (hbase : sh.chromaIndex? cx cy = some base) (hm : m = base ∨ m = base + 1)
    (hoff : ¬ s.InBlockGrid ax ay cx cy) :
    Write.lastAt (k.writes sh s ax ay) .chroma m = none := by
  apply k.lastAt_writes_chroma_eq_none sh s ax ay
  intro ci cj base' hci hcj hbase'
  apply sh.chromaIndex?_pair_disjoint hbase hbase' _ hm
  intro heq
  simp only [Prod.mk.injEq] at heq
  simp only [Sprite.InBlockGrid, Sprite.blockOrigin_fst, Sprite.blockOrigin_snd] at hoff
  omega

theorem YuvKey.lastAt_chroma_off_reach {cx cy : Int} {base m : Nat}
    (hbase : sh.chromaIndex? cx cy = some base) (hm : m = base ∨ m = base + 1)
    (hoff : ¬ s.InBlockGrid ax ay cx cy) (hover : ¬ s.OverhangBlock ax ay cx cy) :
    Write.lastAt (k'.writes sh s ax ay) .chroma m = none := by
  apply k'.lastAt_writes_chroma_eq_none sh s ax ay
  intro i j base' hi hj hbase'
  apply sh.chromaIndex?_pair_disjoint hbase hbase' _ hm
  intro heq
  simp only [Prod.mk.injEq] at heq
  have hw := s.dims.2.2.1
  have hh := s.dims.2.2.2
  simp only [Sprite.InBlockGrid, Sprite.OverhangBlock, Sprite.blockOrigin_fst,
    Sprite.blockOrigin_snd] at hoff hover
  omega

theorem lastAt_chroma_eq_off_overhang (ho : s.OpaqueUnder k k')
    (hswap : k'.swapChroma = (k.chromaOffset % 2 == 1)) {cx cy : Int} {base m : Nat}
    (hbase : sh.chromaIndex? cx cy = some base) (hm : m = base ∨ m = base + 1)
    (hover : ¬ s.OverhangBlock ax ay cx cy) :
    Write.lastAt (k.writes sh s ax ay) .chroma m = Write.lastAt (k'.writes sh s ax ay) .chroma m := by
  by_cases hgrid : s.InBlockGrid ax ay cx cy
  · obtain ⟨hx0, hx1, hy0, hy1⟩ := hgrid
    obtain ⟨ci, rfl⟩ : ∃ ci : Nat, cx = (s.blockOrigin ax ay).1 + ci :=
      ⟨(cx - (s.blockOrigin ax ay).1).toNat, by omega⟩
    obtain ⟨cj, rfl⟩ : ∃ cj : Nat, cy = (s.blockOrigin ax ay).2 + cj :=
      ⟨(cy - (s.blockOrigin ax ay).2).toNat, by omega⟩
    exact lastAt_chroma_eq_in_grid ho hswap (by omega) (by omega) hbase hm
  · rw [LumaKey.lastAt_chroma_off_grid hbase hm hgrid,
      YuvKey.lastAt_chroma_off_reach hbase hm hgrid hover]

theorem LumaKey.lastAt_chroma_overhang {cx cy : Int} {base m : Nat}
    (hbase : sh.chromaIndex? cx cy = some base) (hm : m = base ∨ m = base + 1)
    (hover : s.OverhangBlock ax ay cx cy) :
    Write.lastAt (k.writes sh s ax ay) .chroma m = none :=
  LumaKey.lastAt_chroma_off_grid hbase hm (s.not_inBlockGrid_of_overhang hover)

end Agreement

/-- What compositing an opaque sprite with a luma key `k` gives, against a YUV key `k'`. -/
structure KeysAgree (f : Frame) (s : Sprite) (ax ay : Int) (k : LumaKey) (k' : YuvKey) : Prop where
  luma : (f.composite (.luma k) s ax ay).luma = (f.composite (.yuv k') s ax ay).luma
  grid : ∀ ci cj base, ci < s.width / 2 → cj < s.height / 2 →
    f.chromaIndex? ((s.blockOrigin ax ay).1 + ci) ((s.blockOrigin ax ay).2 + cj) = some base →
    (f.composite (.luma k) s ax ay).chroma[base]? = (f.composite (.yuv k') s ax ay).chroma[base]? ∧
      (f.composite (.luma k) s ax ay).chroma[base + 1]? =
        (f.composite (.yuv k') s ax ay).chroma[base + 1]?
  even_edges : (s.topLeft ax ay).1 % 2 = 0 → (s.topLeft ax ay).2 % 2 = 0 →
    f.composite (.luma k) s ax ay = f.composite (.yuv k') s ax ay
  differ_on_overhang : ∀ cx cy base, f.chromaIndex? cx cy = some base →
    ((f.composite (.luma k) s ax ay).chroma[base]? ≠ (f.composite (.yuv k') s ax ay).chroma[base]? ∨
      (f.composite (.luma k) s ax ay).chroma[base + 1]? ≠
        (f.composite (.yuv k') s ax ay).chroma[base + 1]?) →
    s.OverhangBlock ax ay cx cy
  overhang_kept : ∀ cx cy base, f.chromaIndex? cx cy = some base → s.OverhangBlock ax ay cx cy →
    (f.composite (.luma k) s ax ay).chroma[base]? = f.chroma[base]? ∧
      (f.composite (.luma k) s ax ay).chroma[base + 1]? = f.chroma[base + 1]?

section Frames

variable (f : Frame) {s : Sprite} {ax ay : Int} {k : LumaKey} {k' : YuvKey}

theorem composite_luma_eq_of_opaque_sprite (ho : s.OpaqueUnder k k') :
    (f.composite (.luma k) s ax ay).luma = (f.composite (.yuv k') s ax ay).luma := by
  apply Array.ext_getElem?
  intro n
  exact f.composite_plane_congr s ax ay (p := .luma) (lastAt_luma_eq_of_opaque_sprite ho n)

theorem composite_chroma_eq_off_overhang (ho : s.OpaqueUnder k k')
    (hswap : k'.swapChroma = (k.chromaOffset % 2 == 1)) {cx cy : Int} {base : Nat}
    (hbase : f.chromaIndex? cx cy = some base) (hover : ¬ s.OverhangBlock ax ay cx cy) :
    (f.composite (.luma k) s ax ay).chroma[base]? = (f.composite (.yuv k') s ax ay).chroma[base]? ∧
      (f.composite (.luma k) s ax ay).chroma[base + 1]? =
        (f.composite (.yuv k') s ax ay).chroma[base + 1]? :=
  ⟨f.composite_plane_congr s ax ay (p := .chroma)
      (lastAt_chroma_eq_off_overhang ho hswap hbase (.inl rfl) hover),
    f.composite_plane_congr s ax ay (p := .chroma)
      (lastAt_chroma_eq_off_overhang ho hswap hbase (.inr rfl) hover)⟩

theorem composite_luma_key_keeps_overhang {cx cy : Int} {base : Nat}
    (hbase : f.chromaIndex? cx cy = some base) (hover : s.OverhangBlock ax ay cx cy) :
    (f.composite (.luma k) s ax ay).chroma[base]? = f.chroma[base]? ∧
      (f.composite (.luma k) s ax ay).chroma[base + 1]? = f.chroma[base + 1]? :=
  ⟨f.overwrite_plane_getElem?_of_lastAt_none (p := .chroma)
      (LumaKey.lastAt_chroma_overhang hbase (.inl rfl) hover),
    f.overwrite_plane_getElem?_of_lastAt_none (p := .chroma)
      (LumaKey.lastAt_chroma_overhang hbase (.inr rfl) hover)⟩

theorem composite_eq_of_even_edges (ho : s.OpaqueUnder k k')
    (hswap : k'.swapChroma = (k.chromaOffset % 2 == 1))
    (hleft : (s.topLeft ax ay).1 % 2 = 0) (htop : (s.topLeft ax ay).2 % 2 = 0) :
    f.composite (.luma k) s ax ay = f.composite (.yuv k') s ax ay := by
  apply f.overwrite_congr
  intro p m
  cases p with
  | luma => exact lastAt_luma_eq_of_opaque_sprite ho m
  | chroma =>
    by_cases hblock : ∃ cx cy base, f.shape.chromaIndex? cx cy = some base ∧ (m = base ∨ m = base + 1)
    · obtain ⟨cx, cy, base, hbase, hm⟩ := hblock
      apply lastAt_chroma_eq_off_overhang ho hswap hbase hm
      unfold Sprite.OverhangBlock
      omega
    · -- a byte in no block's pair: neither key writes it
      have hfree : ∀ cx cy base, f.shape.chromaIndex? cx cy = some base → m ≠ base ∧ m ≠ base + 1 := by
        intro cx cy base hbase
        constructor <;> intro heq <;> exact hblock ⟨cx, cy, base, hbase, by omega⟩
      show Write.lastAt (k.writes _ s ax ay) .chroma m = Write.lastAt (k'.writes _ s ax ay) .chroma m
      rw [k.lastAt_writes_chroma_eq_none _ _ _ _ (fun _ _ base _ _ hb => hfree _ _ base hb),
        k'.lastAt_writes_chroma_eq_none _ _ _ _ (fun _ _ base _ _ hb => hfree _ _ base hb)]

end Frames

/-- On a sprite opaque under both keys, a luma key and a YUV key that store pairs in the same
order composite the same frame, except on the blocks just past an odd edge. -/
theorem luma_key_agrees_with_yuv_key (f : Frame) (s : Sprite) (ax ay : Int) (k : LumaKey)
    (k' : YuvKey) (hswap : k'.swapChroma = (k.chromaOffset % 2 == 1))
    (ho : s.OpaqueUnder k k') : KeysAgree f s ax ay k k' where
  luma := composite_luma_eq_of_opaque_sprite f ho
  grid := by
    intro ci cj base hci hcj hbase
    apply composite_chroma_eq_off_overhang f ho hswap hbase
    intro hover
    apply s.not_inBlockGrid_of_overhang hover
    simp only [Sprite.InBlockGrid]
    omega
  even_edges := composite_eq_of_even_edges f ho hswap
  differ_on_overhang := by
    intro cx cy base hbase hdiff
    refine Classical.byContradiction fun hover => ?_
    obtain ⟨h0, h1⟩ := composite_chroma_eq_off_overhang f ho hswap hbase hover
    exact hdiff.elim (· h0) (· h1)
  overhang_kept := fun _ _ _ hbase hover => composite_luma_key_keeps_overhang f hbase hover

/-- A 4x4 black frame with neutral chroma. -/
def blackFrame4 : Frame :=
  ⟨4, 4, Array.replicate 16 0, Array.replicate 8 128, by decide, by simp, by simp⟩

/-- A 2x2 dark sprite with one coloured block. -/
def darkSprite2 : Sprite := ⟨2, 2, #[10, 10, 10, 10], #[60, 200], by decide, rfl, rfl⟩

theorem luma_key_agrees_with_yuv_key_on_dark_sprite :
    YuvKey.standard.swapChroma = (LumaKey.copy.chromaOffset % 2 == 1) ∧
      darkSprite2.OpaqueUnder LumaKey.copy YuvKey.standard ∧
      KeysAgree blackFrame4 darkSprite2 2 2 LumaKey.copy YuvKey.standard := by
  have hswap : YuvKey.standard.swapChroma = (LumaKey.copy.chromaOffset % 2 == 1) := by decide
  have ho : darkSprite2.OpaqueUnder LumaKey.copy YuvKey.standard := by
    have hdark : ∀ i j y, darkSprite2.lumaAt? i j = some y → y = 10 := by
      intro i j y h
      simpa [darkSprite2] using darkSprite2.lumaAt?_mem h
    refine ⟨fun i j y h => ?_, fun i j y u v h _ => ?_⟩
    · rw [hdark i j y h]
      decide
    · rw [hdark i j y h]
      simp [YuvKey.isBackground, YuvKey.standard]
  exact ⟨hswap, ho, luma_key_agrees_with_yuv_key _ _ _ _ _ _ hswap ho⟩

end CameraOverlay
