import CameraOverlay.Proofs.KeyAgreement
/-!
# The frame each key composites, pixel by pixel and block by block

A frame is known once the luma of every pixel and the pair of every chroma block are known
(`Frame.ext_pixels`), so compositing is described exactly by what it leaves on each of them.

With the sprite's top-left pixel at `(left, top)`:

* a luma key copies onto pixel `(x, y)` the sprite sample `(x - left, y - top)` when that sample
  exists and passes the threshold (`LumaKey.sampleOver`), and stores on block `(cx, cy)` the pair
  of sprite block `(cx - left / 2, cy - top / 2)` when that block exists and its top-left sample
  passes (`LumaKey.pairOver`); halving rounds down, for negative positions too;
* a YUV key copies the sample of every visible sprite pixel (`YuvKey.sampleOver`), and each frame
  block ends with the stored chroma of the last visible pixel, in column-major order, that falls
  in it (`YuvKey.pairOver`).

Everything else keeps its bytes. `luma_key_composite_exact` and `yuv_key_composite_exact` say so
as a characterization: compositing gives the frame `g` exactly when `g` is so described.
-/

namespace CameraOverlay

namespace Frame

variable (f : Frame)

theorem lumaAt?_of_lumaIndex? {x y : Int} {n : Nat} (h : f.lumaIndex? x y = some n) :
    f.lumaAt? x y = f.luma[n]? := by
  simp [lumaAt?, h]

theorem chromaPairAt?_of_chromaIndex? {cx cy : Int} {base : Nat} (h : f.chromaIndex? cx cy = some base) :
    ∃ u v, f.chroma[base]? = some u ∧ f.chroma[base + 1]? = some v ∧
      f.chromaPairAt? cx cy = some (u, v) := by
  have hlt := f.shape.chromaIndex?_succ_lt f.dims.2.2.1 f.dims.2.2.2 h
  have h1 : base + 1 < f.chroma.size := by rw [f.chroma_size]; exact hlt
  have h0 : base < f.chroma.size := by omega
  have hU : f.chroma[base]? = some f.chroma[base] := getElem?_pos f.chroma base h0
  have hV : f.chroma[base + 1]? = some f.chroma[base + 1] := getElem?_pos f.chroma (base + 1) h1
  exact ⟨_, _, hU, hV, by simp [chromaPairAt?, h, hU, hV]⟩

/-- A frame is determined by its dimensions, the luma of every pixel and the pair of every block. -/
theorem ext_pixels {g : Frame} (hshape : g.shape = f.shape)
    (hluma : ∀ x y, g.lumaAt? x y = f.lumaAt? x y)
    (hchroma : ∀ cx cy, g.chromaPairAt? cx cy = f.chromaPairAt? cx cy) : g = f := by
  have hw : g.width = f.width := congrArg Shape.width hshape
  have hh : g.height = f.height := congrArg Shape.height hshape
  apply g.ext_plane hw hh
  intro p n
  cases p with
  | luma =>
    by_cases hn : n < f.width * f.height
    · -- byte `n` is the luma of one pixel, the same on both frames
      have hidx : f.lumaIndex? (n % f.width : Nat) (n / f.width : Nat) = some n :=
        f.shape.lumaIndex?_of_lt hn
      have hidx' : g.lumaIndex? (n % f.width : Nat) (n / f.width : Nat) = some n := by
        rw [lumaIndex?, hshape]
        exact hidx
      have hpix := hluma (n % f.width : Nat) (n / f.width : Nat)
      rwa [g.lumaAt?_of_lumaIndex? hidx', f.lumaAt?_of_lumaIndex? hidx] at hpix
    · have hf : f.luma.size ≤ n := by rw [f.luma_size]; omega
      have hg : g.luma.size ≤ n := by rw [g.luma_size, hw, hh]; omega
      simp [hf, hg]
  | chroma =>
    by_cases hn : n < f.width * f.height / 2
    · -- byte `n` is one of the two bytes of a block's pair, the same block on both frames
      obtain ⟨cx, cy, base, hbase, hm⟩ := f.shape.chromaIndex?_of_lt f.dims.2.2.1 f.dims.2.2.2 hn
      have hbase' : g.chromaIndex? cx cy = some base := by
        rw [chromaIndex?, hshape]
        exact hbase
      obtain ⟨u, v, hu, hv, hg⟩ := g.chromaPairAt?_of_chromaIndex? hbase'
      obtain ⟨u', v', hu', hv', hf⟩ := f.chromaPairAt?_of_chromaIndex? hbase
      have hpair := hchroma cx cy
      rw [hg, hf, Option.some.injEq, Prod.mk.injEq] at hpair
      show g.chroma[n]? = f.chroma[n]?
      rcases hm with rfl | rfl
      · rw [hu, hu', hpair.1]
      · rw [hv, hv', hpair.2]
    · have hf : f.chroma.size ≤ n := by rw [f.chroma_size]; omega
      have hg : g.chroma.size ≤ n := by rw [g.chroma_size, hw, hh]; omega
      simp [hf, hg]

theorem overwrite_lumaAt? (ws : List Write) {x y : Int} {Q : Option UInt8}
    (hQ : ∀ n, f.lumaIndex? x y = some n → Write.lastAt ws .luma n = Q) :
    (f.overwrite ws).lumaAt? x y = (f.lumaAt? x y).map fun b => Q.getD b := by
  have hidx : (f.overwrite ws).lumaIndex? x y = f.lumaIndex? x y := by
    simp [lumaIndex?]
  unfold lumaAt?
  rw [hidx]
  cases hn : f.lumaIndex? x y with
  | none => rfl
  | some n =>
    rw [Option.bind_some, Option.bind_some, ← plane_luma, overwrite_plane_getElem?, hQ n hn]
    rfl

theorem overwrite_chromaPairAt? (ws : List Write) {cx cy : Int} {P : Option (UInt8 × UInt8)}
    (hP : ∀ base m, f.chromaIndex? cx cy = some base → (m = base ∨ m = base + 1) →
      Write.lastAt ws .chroma m = P.bind (pairByte base m)) :
    (f.overwrite ws).chromaPairAt? cx cy = (f.chromaPairAt? cx cy).map fun q => P.getD q := by
  have hidx : (f.overwrite ws).chromaIndex? cx cy = f.chromaIndex? cx cy := by
    simp [chromaIndex?]
  unfold chromaPairAt?
  rw [hidx]
  cases hb : f.chromaIndex? cx cy with
  | none => rfl
  | some base =>
    have hU := hP base base hb (.inl rfl)
    have hV := hP base (base + 1) hb (.inr rfl)
    simp only [Option.bind_some, ← plane_chroma, overwrite_plane_getElem?, hU, hV]
    cases P with
    | none => cases (f.plane .chroma)[base]? <;> cases (f.plane .chroma)[base + 1]? <;> rfl
    | some q => cases (f.plane .chroma)[base]? <;> cases (f.plane .chroma)[base + 1]? <;> simp [pairByte]

end Frame

theorem Shape.lumaByteAt_bind_eq_none {α : Type} {sh : Shape} {x y x' y' : Int} {n : Nat}
    (hn : sh.lumaIndex? x y = some n) (hne : ¬ (x' = x ∧ y' = y)) (o : Option α) (val : α → UInt8) :
    (o.bind fun a => sh.lumaByteAt n x' y' (val a)) = none := by
  cases o with
  | none => rfl
  | some a =>
    have hother : sh.lumaIndex? x' y' ≠ some n := fun h' => hne (sh.lumaIndex?_inj h' hn)
    simp [Shape.lumaByteAt, hother]

theorem gridLast_lumaByteAt_eq {α : Type} {sh : Shape} {w h : Nat} {left top x y : Int} {n : Nat}
    (g : Nat → Nat → Option α) (val : α → UInt8) (hn : sh.lumaIndex? x y = some n)
    (hg : ∀ i j, ¬ (i < w ∧ j < h) → g i j = none) :
    (gridLast w h fun i j => (g i j).bind fun a => sh.lumaByteAt n (left + i) (top + j) (val a)) =
      if left ≤ x ∧ top ≤ y then (g (x - left).toNat (y - top).toNat).map val else none := by
  by_cases hin : left ≤ x ∧ top ≤ y
  · rw [if_pos hin]
    by_cases hlt : (x - left).toNat < w ∧ (y - top).toNat < h
    · have hn' : sh.lumaIndex? (left + (x - left).toNat) (top + (y - top).toNat) = some n := by
        rw [Int.toNat_of_nonneg (by omega), Int.toNat_of_nonneg (by omega),
          show left + (x - left) = x by omega, show top + (y - top) = y by omega]
        exact hn
      exact gridLast_lumaByteAt g val hlt.1 hlt.2 hn'
    · -- the sample under the pixel lies past the sprite's edge
      rw [hg _ _ hlt, Option.map_none]
      apply gridLast_eq_none
      intro i j hi hj
      exact Shape.lumaByteAt_bind_eq_none hn (by omega) _ _
  · rw [if_neg hin]
    apply gridLast_eq_none
    intro i j _ _
    exact Shape.lumaByteAt_bind_eq_none hn (by omega) _ _

/-- The frame block that sprite pixel `(i, j)` falls in, the sprite's top-left pixel lying at
`(left, top)`. -/
def blockUnder (left top : Int) (i j : Nat) : Int × Int := ((left + i) / 2, (top + j) / 2)

/-- Frame pixel `(x, y)` lies under the sprite centred on `(ax, ay)`. -/
def Sprite.Covers (s : Sprite) (ax ay x y : Int) : Prop :=
  (s.topLeft ax ay).1 ≤ x ∧ x < (s.topLeft ax ay).1 + s.width ∧
    (s.topLeft ax ay).2 ≤ y ∧ y < (s.topLeft ax ay).2 + s.height

namespace LumaKey

variable (k : LumaKey) (s : Sprite)

/-- The sample a luma key copies onto frame pixel `(x, y)`, if any. -/
def sampleOver (left top x y : Int) : Option UInt8 :=
  if left ≤ x ∧ top ≤ y then k.passing s (x - left).toNat (y - top).toNat else none

/-- The pair a luma key stores on frame block `(cx, cy)`, if any. -/
def pairOver (left top cx cy : Int) : Option (UInt8 × UInt8) :=
  if left / 2 ≤ cx ∧ top / 2 ≤ cy then
    (k.passing s ((cx - left / 2).toNat * 2) ((cy - top / 2).toNat * 2)).bind fun _ =>
      (s.chromaAt? (cx - left / 2).toNat (cy - top / 2).toNat).map fun uv => k.storedPair uv.1 uv.2
  else none

theorem passing_eq_none {i j : Nat} (h : ¬ (i < s.width ∧ j < s.height)) : k.passing s i j = none := by
  simp [passing, Sprite.lumaAt?, h]

variable (sh : Shape) (ax ay : Int)

theorem lastAt_writes_pixel {x y : Int} {n : Nat} (hn : sh.lumaIndex? x y = some n) :
    Write.lastAt (k.writes sh s ax ay) .luma n =
      k.sampleOver s (s.topLeft ax ay).1 (s.topLeft ax ay).2 x y := by
  have h := @gridLast_lumaByteAt_eq UInt8 sh s.width s.height (s.topLeft ax ay).1
    (s.topLeft ax ay).2 x y n (k.passing s) id hn (fun i j h => k.passing_eq_none s h)
  rw [Option.map_id] at h
  rw [lastAt_writes_luma, sampleOver]
  exact h

theorem pairOver_eq_none {cx cy : Int} (h : ¬ s.InBlockGrid ax ay cx cy) :
    k.pairOver s (s.topLeft ax ay).1 (s.topLeft ax ay).2 cx cy = none := by
  unfold pairOver
  split
  · have hout : ¬ ((cx - (s.topLeft ax ay).1 / 2).toNat < s.width / 2 ∧
        (cy - (s.topLeft ax ay).2 / 2).toNat < s.height / 2) := by
      simp only [Sprite.InBlockGrid, Sprite.blockOrigin_fst, Sprite.blockOrigin_snd] at h
      omega
    simp [Sprite.chromaAt?, hout]
  · rfl

theorem pairOver_grid (left top : Int) (ci cj : Nat) :
    k.pairOver s left top (left / 2 + ci) (top / 2 + cj) =
      (k.passing s (ci * 2) (cj * 2)).bind fun _ =>
        (s.chromaAt? ci cj).map fun uv => k.storedPair uv.1 uv.2 := by
  rw [pairOver, if_pos (by omega), show (left / 2 + ci - left / 2).toNat = ci by omega,
    show (top / 2 + cj - top / 2).toNat = cj by omega]

theorem lastAt_blockWrites_pair {ci cj : Nat} {cx cy : Int} {base m : Nat}
    (hbase : sh.chromaIndex? cx cy = some base) :
    Write.lastAt (k.blockWrites sh s ci cj cx cy) .chroma m =
      ((k.passing s (ci * 2) (cj * 2)).bind fun _ =>
        (s.chromaAt? ci cj).map fun uv => k.storedPair uv.1 uv.2).bind (pairByte base m) := by
  cases hkey : s.lumaAt? (ci * 2) (cj * 2) with
  | none => simp [passing, hkey, blockWrites]
  | some key =>
    cases huv : s.chromaAt? ci cj with
    | none => simp [passing, hkey, huv, blockWrites]
    | some uv =>
      obtain ⟨u, v⟩ := uv
      by_cases hpass : key ≤ k.threshold
      · rw [k.lastAt_blockWrites_chroma sh s hkey hpass huv hbase m]
        simp [passing, hkey, hpass]
      · simp [passing, hkey, blockWrites, huv, hbase, hpass]

theorem lastAt_writes_block {cx cy : Int} {base m : Nat} (hbase : sh.chromaIndex? cx cy = some base)
    (hm : m = base ∨ m = base + 1) :
    Write.lastAt (k.writes sh s ax ay) .chroma m =
      (k.pairOver s (s.topLeft ax ay).1 (s.topLeft ax ay).2 cx cy).bind (pairByte base m) := by
  by_cases hgrid : s.InBlockGrid ax ay cx cy
  · -- the block under sprite block `(ci, cj)`: only that sprite block writes its pair
    obtain ⟨hx0, hx1, hy0, hy1⟩ := hgrid
    simp only [Sprite.blockOrigin_fst, Sprite.blockOrigin_snd] at hx0 hx1 hy0 hy1
    obtain ⟨ci, rfl⟩ : ∃ ci : Nat, cx = (s.topLeft ax ay).1 / 2 + ci :=
      ⟨(cx - (s.topLeft ax ay).1 / 2).toNat, by omega⟩
    obtain ⟨cj, rfl⟩ : ∃ cj : Nat, cy = (s.topLeft ax ay).2 / 2 + cj :=
      ⟨(cy - (s.topLeft ax ay).2 / 2).toNat, by omega⟩
    rw [writes_eq, Write.lastAt_append, lastAt_lumaWrites_chroma, Option.or_none,
      lastAt_chromaWrites, gridLast_of_unique (i := ci) (j := cj) (by omega) (by omega),
      k.lastAt_blockWrites_pair s sh hbase, pairOver_grid]
    intro ci' cj' _ _ hne
    apply k.lastAt_blockWrites_chroma_eq_none sh s
    intro base' hbase'
    apply sh.chromaIndex?_pair_disjoint hbase hbase' _ hm
    intro heq
    apply hne
    simp only [Prod.mk.injEq] at heq ⊢
    omega
  · -- off the grid no sprite block lands here
    rw [LumaKey.lastAt_chroma_off_grid hbase hm hgrid, k.pairOver_eq_none s ax ay hgrid]
    rfl

theorem sampleOver_eq_none {x y : Int} (h : ¬ s.Covers ax ay x y) :
    k.sampleOver s (s.topLeft ax ay).1 (s.topLeft ax ay).2 x y = none := by
  unfold sampleOver
  split
  · apply k.passing_eq_none s
    unfold Sprite.Covers at h
    omega
  · rfl

variable (f : Frame)

theorem composite_lumaAt? (x y : Int) :
    (f.composite (.luma k) s ax ay).lumaAt? x y =
      (f.lumaAt? x y).map fun b =>
        (k.sampleOver s (s.topLeft ax ay).1 (s.topLeft ax ay).2 x y).getD b :=
  f.overwrite_lumaAt? _ fun _ hn => k.lastAt_writes_pixel s f.shape ax ay hn

theorem composite_chromaPairAt? (cx cy : Int) :
    (f.composite (.luma k) s ax ay).chromaPairAt? cx cy =
      (f.chromaPairAt? cx cy).map fun q =>
        (k.pairOver s (s.topLeft ax ay).1 (s.topLeft ax ay).2 cx cy).getD q :=
  f.overwrite_chromaPairAt? _ fun _ _ hb hm => k.lastAt_writes_block s f.shape ax ay hb hm

/-- The frame `g` is `f` with sprite `s`, centred on `(ax, ay)`, composited by the luma key `k`. -/
structure Composited (k : LumaKey) (s : Sprite) (ax ay : Int) (f g : Frame) : Prop where
  shape : g.shape = f.shape
  luma : ∀ x y, g.lumaAt? x y = (f.lumaAt? x y).map fun b =>
    (k.sampleOver s (s.topLeft ax ay).1 (s.topLeft ax ay).2 x y).getD b
  chroma : ∀ cx cy, g.chromaPairAt? cx cy = (f.chromaPairAt? cx cy).map fun q =>
    (k.pairOver s (s.topLeft ax ay).1 (s.topLeft ax ay).2 cx cy).getD q

theorem composite_eq_iff (g : Frame) : f.composite (.luma k) s ax ay = g ↔ k.Composited s ax ay f g := by
  constructor
  · rintro rfl
    exact ⟨by simp [Frame.composite], composite_lumaAt? k s ax ay f,
      composite_chromaPairAt? k s ax ay f⟩
  · intro hg
    symm
    apply (f.composite (.luma k) s ax ay).ext_pixels
    · rw [hg.shape]
      simp [Frame.composite]
    · intro x y
      rw [hg.luma, composite_lumaAt?]
    · intro cx cy
      rw [hg.chroma, composite_chromaPairAt?]

end LumaKey

/-- Compositing with a luma key gives exactly the frame `LumaKey.Composited` describes. -/
theorem luma_key_composite_exact (f : Frame) (s : Sprite) (k : LumaKey) (ax ay : Int) :
    (∀ g, f.composite (.luma k) s ax ay = g ↔ k.Composited s ax ay f g) ∧
      (∀ x y, ¬ s.Covers ax ay x y →
        (f.composite (.luma k) s ax ay).lumaAt? x y = f.lumaAt? x y) ∧
      (∀ cx cy, ¬ s.InBlockGrid ax ay cx cy →
        (f.composite (.luma k) s ax ay).chromaPairAt? cx cy = f.chromaPairAt? cx cy) := by
  refine ⟨k.composite_eq_iff s ax ay f, fun x y hout => ?_, fun cx cy hout => ?_⟩
  · rw [k.composite_lumaAt?, k.sampleOver_eq_none s ax ay hout]
    simp
  · rw [k.composite_chromaPairAt?, k.pairOver_eq_none s ax ay hout]
    simp

namespace YuvKey

variable (k : YuvKey) (s : Sprite)

/-- The luma a YUV key copies onto frame pixel `(x, y)`, if any. -/
def sampleOver (left top x y : Int) : Option UInt8 :=
  if left ≤ x ∧ top ≤ y then (k.visible s (x - left).toNat (y - top).toNat).map (·.1) else none

/-- The pair that sprite pixel `(i, j)` stores on frame block `(cx, cy)`, if any. -/
def pairFrom (left top cx cy : Int) (i j : Nat) : Option (UInt8 × UInt8) :=
  if blockUnder left top i j = (cx, cy) then
    (k.visible s i j).map fun pix => k.storedPair pix.2.1 pix.2.2
  else none

/-- The pair of the last sprite pixel, in column-major order, that stores one on frame block
`(cx, cy)`. -/
def pairOver (left top cx cy : Int) : Option (UInt8 × UInt8) :=
  gridLast s.width s.height (k.pairFrom s left top cx cy)

theorem visible_eq_some {i j : Nat} {y u v : UInt8} :
    k.visible s i j = some (y, u, v) ↔
      s.lumaAt? i j = some y ∧ s.chromaAt? (i / 2) (j / 2) = some (u, v) ∧
        k.isBackground y u v = false := by
  unfold visible
  cases hy : s.lumaAt? i j with
  | none => simp
  | some y' =>
    cases huv : s.chromaAt? (i / 2) (j / 2) with
    | none => simp
    | some uv =>
      obtain ⟨u', v'⟩ := uv
      by_cases hbg : k.isBackground y' u' v' = true
      · simp only [hbg, if_true, reduceCtorEq, false_iff, not_and, Option.some.injEq, Prod.mk.injEq]
        rintro rfl ⟨rfl, rfl⟩
        simp [hbg]
      · simp only [hbg, Bool.false_eq_true, if_false, Option.some.injEq, Prod.mk.injEq]
        constructor
        · rintro ⟨rfl, rfl, rfl⟩
          simpa using hbg
        · rintro ⟨rfl, ⟨rfl, rfl⟩, -⟩
          exact ⟨rfl, rfl, rfl⟩

theorem visible_eq_none {i j : Nat} (h : ¬ (i < s.width ∧ j < s.height)) : k.visible s i j = none := by
  simp [visible, Sprite.lumaAt?, h]

theorem visible_of_isSome {i j : Nat} {u v : UInt8} (hvis : (k.visible s i j).isSome)
    (huv : s.chromaAt? (i / 2) (j / 2) = some (u, v)) : ∃ y, k.visible s i j = some (y, u, v) := by
  obtain ⟨⟨y, u', v'⟩, hpix⟩ := Option.isSome_iff_exists.1 hvis
  obtain ⟨-, huv', -⟩ := (k.visible_eq_some s).1 hpix
  rw [huv] at huv'
  cases huv'
  exact ⟨y, hpix⟩

variable (sh : Shape) (ax ay : Int)

theorem lastAt_writes_pixel {x y : Int} {n : Nat} (hn : sh.lumaIndex? x y = some n) :
    Write.lastAt (k.writes sh s ax ay) .luma n =
      k.sampleOver s (s.topLeft ax ay).1 (s.topLeft ax ay).2 x y := by
  rw [lastAt_writes_luma, sampleOver]
  exact gridLast_lumaByteAt_eq (k.visible s) (·.1) hn (fun i j h => k.visible_eq_none s h)

theorem lastAt_writes_block {cx cy : Int} {base m : Nat} (hbase : sh.chromaIndex? cx cy = some base)
    (hm : m = base ∨ m = base + 1) :
    Write.lastAt (k.writes sh s ax ay) .chroma m =
      (k.pairOver s (s.topLeft ax ay).1 (s.topLeft ax ay).2 cx cy).bind (pairByte base m) := by
  have hsel : ∀ q, pairByte base m q = some (if m = base then q.1 else q.2) := by
    intro q
    rcases hm with rfl | rfl <;> simp [pairByte]
  have hbind : ∀ o : Option (UInt8 × UInt8),
      o.bind (pairByte base m) = o.map fun q => if m = base then q.1 else q.2 := by
    intro o
    cases o <;> simp [hsel]
  rw [hbind, pairOver, ← gridLast_map, lastAt_writes_chroma]
  apply gridLast_congr
  intro i j _ _
  unfold pairFrom
  cases k.visible s i j with
  | none => simp
  | some pix =>
    by_cases hb : blockUnder (s.topLeft ax ay).1 (s.topLeft ax ay).2 i j = (cx, cy)
    · simp only [blockUnder, Prod.mk.injEq] at hb
      simp [blockUnder, hb.1, hb.2, hbase, hsel]
    · rw [if_neg hb, Option.bind_some, Option.map_none]
      refine bind_pairByte_eq_none _ fun base' hbase' => ?_
      exact sh.chromaIndex?_pair_disjoint hbase hbase' hb hm

section Blocks

variable {left top cx cy : Int}

theorem pairOver_eq_none
    (h : ∀ i j, i < s.width → j < s.height → (k.visible s i j).isSome →
      blockUnder left top i j ≠ (cx, cy)) :
    k.pairOver s left top cx cy = none := by
  apply gridLast_eq_none
  intro i j hi hj
  unfold pairFrom
  by_cases hb : blockUnder left top i j = (cx, cy)
  · rw [if_pos hb]
    cases hv : k.visible s i j with
    | none => rfl
    | some pix => exact absurd hb (h i j hi hj (by simp [hv]))
  · rw [if_neg hb]

theorem pairOver_of_last {i j : Nat} {u v : UInt8} (hi : i < s.width) (hj : j < s.height)
    (hvis : (k.visible s i j).isSome) (hb : blockUnder left top i j = (cx, cy))
    (huv : s.chromaAt? (i / 2) (j / 2) = some (u, v))
    (hlater : ∀ i' j', i' < s.width → j' < s.height → VisitedAfter i j i' j' →
      (k.visible s i' j').isSome → blockUnder left top i' j' ≠ (cx, cy)) :
    k.pairOver s left top cx cy = some (k.storedPair u v) := by
  obtain ⟨y, hpix⟩ := k.visible_of_isSome s hvis huv
  apply gridLast_of_last hi hj (by simp [pairFrom, hb, hpix])
  intro i' j' hi' hj' hafter
  unfold pairFrom
  by_cases hb' : blockUnder left top i' j' = (cx, cy)
  · rw [if_pos hb']
    cases hv : k.visible s i' j' with
    | none => rfl
    | some pix => exact absurd hb' (hlater i' j' hi' hj' hafter (by simp [hv]))
  · rw [if_neg hb']

theorem pairOver_cases :
    (k.pairOver s left top cx cy = none ∧
      ∀ i j, i < s.width → j < s.height → (k.visible s i j).isSome →
        blockUnder left top i j ≠ (cx, cy)) ∨
    ∃ i j u v, i < s.width ∧ j < s.height ∧ (k.visible s i j).isSome ∧
      blockUnder left top i j = (cx, cy) ∧ s.chromaAt? (i / 2) (j / 2) = some (u, v) ∧
      (∀ i' j', i' < s.width → j' < s.height → VisitedAfter i j i' j' →
        (k.visible s i' j').isSome → blockUnder left top i' j' ≠ (cx, cy)) ∧
      k.pairOver s left top cx cy = some (k.storedPair u v) := by
  have hcell : ∀ i j, k.pairFrom s left top cx cy i j = none ↔
      ¬ ((k.visible s i j).isSome ∧ blockUnder left top i j = (cx, cy)) := by
    intro i j
    unfold pairFrom
    by_cases hb : blockUnder left top i j = (cx, cy)
    · cases k.visible s i j <;> simp [hb]
    · simp [hb]
  cases hp : k.pairOver s left top cx cy with
  | none =>
    refine .inl ⟨rfl, fun i j hi hj hvis hb => ?_⟩
    exact (hcell i j).1 (eq_none_of_gridLast_eq_none hp hi hj) ⟨hvis, hb⟩
  | some q =>
    obtain ⟨i, j, hi, hj, hq, hlater⟩ := gridLast_eq_some hp
    have hb : blockUnder left top i j = (cx, cy) := by
      by_cases hb : blockUnder left top i j = (cx, cy)
      · exact hb
      · simp [pairFrom, hb] at hq
    obtain ⟨y, u, v, hpix, rfl⟩ : ∃ y u v, k.visible s i j = some (y, u, v) ∧ k.storedPair u v = q := by
      simpa [pairFrom, hb] using hq
    obtain ⟨-, huv, -⟩ := (k.visible_eq_some s).1 hpix
    refine .inr ⟨i, j, u, v, hi, hj, by simp [hpix], hb, huv, ?_, rfl⟩
    intro i' j' hi' hj' hafter hvis' hb'
    exact (hcell i' j').1 (hlater i' j' hi' hj' hafter) ⟨hvis', hb'⟩

end Blocks

variable (f : Frame)

theorem composite_lumaAt? (x y : Int) :
    (f.composite (.yuv k) s ax ay).lumaAt? x y =
      (f.lumaAt? x y).map fun b =>
        (k.sampleOver s (s.topLeft ax ay).1 (s.topLeft ax ay).2 x y).getD b :=
  f.overwrite_lumaAt? _ fun _ hn => k.lastAt_writes_pixel s f.shape ax ay hn

theorem composite_chromaPairAt? (cx cy : Int) :
    (f.composite (.yuv k) s ax ay).chromaPairAt? cx cy =
      (f.chromaPairAt? cx cy).map fun q =>
        (k.pairOver s (s.topLeft ax ay).1 (s.topLeft ax ay).2 cx cy).getD q :=
  f.overwrite_chromaPairAt? _ fun _ _ hb hm => k.lastAt_writes_block s f.shape ax ay hb hm

/-- The frame `g` is `f` with sprite `s`, centred on `(ax, ay)`, composited by the YUV key `k`. -/
structure Composited (k : YuvKey) (s : Sprite) (ax ay : Int) (f g : Frame) : Prop where
  shape : g.shape = f.shape
  luma : ∀ x y, g.lumaAt? x y = (f.lumaAt? x y).map fun b =>
    (k.sampleOver s (s.topLeft ax ay).1 (s.topLeft ax ay).2 x y).getD b
  unreached : ∀ cx cy, (∀ i j, i < s.width → j < s.height → (k.visible s i j).isSome →
      blockUnder (s.topLeft ax ay).1 (s.topLeft ax ay).2 i j ≠ (cx, cy)) →
    g.chromaPairAt? cx cy = f.chromaPairAt? cx cy
  lastVisible : ∀ cx cy i j u v, i < s.width → j < s.height → (k.visible s i j).isSome →
    blockUnder (s.topLeft ax ay).1 (s.topLeft ax ay).2 i j = (cx, cy) →
    s.chromaAt? (i / 2) (j / 2) = some (u, v) →
    (∀ i' j', i' < s.width → j' < s.height → VisitedAfter i j i' j' → (k.visible s i' j').isSome →
      blockUnder (s.topLeft ax ay).1 (s.topLeft ax ay).2 i' j' ≠ (cx, cy)) →
    g.chromaPairAt? cx cy = (f.chromaPairAt? cx cy).map fun _ => k.storedPair u v

theorem composited_composite : k.Composited s ax ay f (f.composite (.yuv k) s ax ay) where
  shape := by simp [Frame.composite]
  luma := composite_lumaAt? k s ax ay f
  unreached := by
    intro cx cy h
    rw [composite_chromaPairAt?, k.pairOver_eq_none s h]
    simp
  lastVisible := by
    intro cx cy i j u v hi hj hvis hb huv hlater
    rw [composite_chromaPairAt?, k.pairOver_of_last s hi hj hvis hb huv hlater]
    rfl

theorem Composited.chromaPairAt? {g : Frame} (hg : k.Composited s ax ay f g) (cx cy : Int) :
    g.chromaPairAt? cx cy = (f.chromaPairAt? cx cy).map fun q =>
      (k.pairOver s (s.topLeft ax ay).1 (s.topLeft ax ay).2 cx cy).getD q := by
  rcases k.pairOver_cases s with ⟨hnone, hunreached⟩ | ⟨i, j, u, v, hi, hj, hvis, hb, huv, hlater, hp⟩
  · rw [hg.unreached cx cy hunreached, hnone]
    simp
  · rw [hg.lastVisible cx cy i j u v hi hj hvis hb huv hlater, hp]
    rfl

end YuvKey

/-- Compositing with a YUV key gives exactly the frame `YuvKey.Composited` describes. -/
theorem yuv_key_composite_exact (f : Frame) (s : Sprite) (k : YuvKey) (ax ay : Int) (g : Frame) :
    f.composite (.yuv k) s ax ay = g ↔ k.Composited s ax ay f g := by
  constructor
  · rintro rfl
    exact k.composited_composite s ax ay f
  · -- a described frame agrees with the composite on every pixel and every block
    intro hg
    symm
    apply (f.composite (.yuv k) s ax ay).ext_pixels
    · rw [hg.shape]
      simp [Frame.composite]
    · intro x y
      rw [hg.luma, YuvKey.composite_lumaAt?]
    · intro cx cy
      rw [hg.chromaPairAt?, YuvKey.composite_chromaPairAt?]

end CameraOverlay
