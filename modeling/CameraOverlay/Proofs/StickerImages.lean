import CameraOverlay.Sprite.Rgba
import CameraOverlay.Proofs.Compositing
/-!
# Transparent pixels of sticker images

A sticker image is decoded by sampling: `Sprite.ofFn?` stores the luma of every pixel and, for
each 2x2 block, the chroma of its top-left pixel. A pixel of an RGBA image whose alpha is below
one half is sampled as `RgbaImage.keyedBackground`, white with neutral chroma.

The luma key drops such a pixel on its luma alone, so the frame byte under it keeps its value.
The YUV key decides on the pixel's luma together with the chroma of its block, and that chroma
is the top-left pixel's: when the top-left pixel is opaque and coloured, a transparent pixel
beside it is not background and is copied as white. `transparent_pixel_luma` gives the byte
under a transparent pixel exactly, for both keys.
-/

namespace CameraOverlay

namespace Sprite

variable {w h : Nat} {pixel : Nat → Nat → Yuv}

theorem size_lumaOfFn : (lumaOfFn w h pixel).size = w * h := Array.size_ofFn

theorem size_chromaOfFn (hd : SpriteDims w h) : (chromaOfFn w h pixel).size = w * h / 2 := by
  rw [chromaOfFn, Array.size_ofFn]
  obtain ⟨-, -, hw, hh⟩ := hd
  obtain ⟨a, rfl⟩ : ∃ a, w = 2 * a := ⟨w / 2, by omega⟩
  obtain ⟨b, rfl⟩ : ∃ b, h = 2 * b := ⟨h / 2, by omega⟩
  rw [Nat.mul_div_cancel_left _ (by decide : 0 < 2), Nat.mul_div_cancel_left _ (by decide : 0 < 2),
    Nat.mul_mul_mul_comm]
  omega

theorem ofFn?_eq_ok (pixel : Nat → Nat → Yuv) (hd : SpriteDims w h) :
    ∃ s : Sprite, ofFn? w h pixel = .ok s ∧ s.width = w ∧ s.height = h ∧
      s.luma = lumaOfFn w h pixel ∧ s.chroma = chromaOfFn w h pixel := by
  refine ⟨⟨w, h, lumaOfFn w h pixel, chromaOfFn w h pixel, hd, size_lumaOfFn, size_chromaOfFn hd⟩,
    ?_, rfl, rfl, rfl, rfl⟩
  simp [ofFn?, ofPlanes?, hd, size_lumaOfFn, size_chromaOfFn hd]

variable (s : Sprite)

theorem lumaAt?_of_luma_eq (hs : s.luma = lumaOfFn s.width s.height pixel) {x y : Nat}
    (hx : x < s.width) (hy : y < s.height) : s.lumaAt? x y = some (pixel x y).y := by
  have hpos : 0 < s.height := by omega
  have hlt : x * s.height + y < s.width * s.height :=
    calc x * s.height + y < (x + 1) * s.height := by rw [Nat.succ_mul]; omega
      _ ≤ s.width * s.height := Nat.mul_le_mul_right _ hx
  have hdiv : (x * s.height + y) / s.height = x := by
    rw [Nat.add_comm, Nat.add_mul_div_right _ _ hpos, Nat.div_eq_of_lt hy, Nat.zero_add]
  have hmod : (x * s.height + y) % s.height = y := by
    rw [Nat.add_comm, Nat.add_mul_mod_self_right, Nat.mod_eq_of_lt hy]
  simp [lumaAt?, hx, hy, hs, lumaOfFn, hlt, hdiv, hmod]

theorem chromaAt?_of_chroma_eq (hs : s.chroma = chromaOfFn s.width s.height pixel) {cx cy : Nat}
    (hx : cx < s.width / 2) (hy : cy < s.height / 2) :
    s.chromaAt? cx cy = some ((pixel (cx * 2) (cy * 2)).u, (pixel (cx * 2) (cy * 2)).v) := by
  have hpos : 0 < s.height / 2 := by omega
  have hblock : cx * (s.height / 2) + cy < s.width / 2 * (s.height / 2) :=
    calc cx * (s.height / 2) + cy < (cx + 1) * (s.height / 2) := by rw [Nat.succ_mul]; omega
      _ ≤ s.width / 2 * (s.height / 2) := Nat.mul_le_mul_right _ hx
  have hdiv : (cx * (s.height / 2) + cy) / (s.height / 2) = cx := by
    rw [Nat.add_comm, Nat.add_mul_div_right _ _ hpos, Nat.div_eq_of_lt hy, Nat.zero_add]
  have hmod : (cx * (s.height / 2) + cy) % (s.height / 2) = cy := by
    rw [Nat.add_comm, Nat.add_mul_mod_self_right, Nat.mod_eq_of_lt hy]
  have hu : (cx * (s.height / 2) + cy) * 2 / 2 = cx * (s.height / 2) + cy := by omega
  have hv : ((cx * (s.height / 2) + cy) * 2 + 1) / 2 = cx * (s.height / 2) + cy := by omega
  simp [chromaAt?, hx, hy, hs, chromaOfFn, hu, hv, hdiv, hmod, hblock,
    show (cx * (s.height / 2) + cy) * 2 + 1 < s.width / 2 * (s.height / 2) * 2 by omega]

end Sprite

namespace RgbaImage

variable (img : RgbaImage)

theorem evenPart_even (n : Nat) : evenPart n % 2 = 0 := by
  unfold evenPart
  omega

theorem toSprite?_eq_ok (hw : 2 ≤ evenPart img.width) (hh : 2 ≤ evenPart img.height) :
    ∃ s, img.toSprite? = .ok s ∧ s.width = evenPart img.width ∧ s.height = evenPart img.height ∧
      (∀ x y, x < s.width → y < s.height → s.lumaAt? x y = some (img.yuvAt x y).y) ∧
      ∀ cx cy, cx < s.width / 2 → cy < s.height / 2 →
        s.chromaAt? cx cy = some ((img.yuvAt (cx * 2) (cy * 2)).u, (img.yuvAt (cx * 2) (cy * 2)).v) := by
  have hd : SpriteDims (evenPart img.width) (evenPart img.height) :=
    ⟨hw, hh, evenPart_even _, evenPart_even _⟩
  obtain ⟨s, hs, hsw, hsh, hluma, hchroma⟩ := Sprite.ofFn?_eq_ok img.yuvAt hd
  refine ⟨s, hs, hsw, hsh, ?_, ?_⟩
  · intro x y hx hy
    exact s.lumaAt?_of_luma_eq (by rw [hsw, hsh]; exact hluma) hx hy
  · intro cx cy hx hy
    exact s.chromaAt?_of_chroma_eq (by rw [hsw, hsh]; exact hchroma) hx hy

theorem yuvAt_of_transparent {x y : Nat} (h : img.channel x y 3 < alphaCutoff) :
    img.yuvAt x y = keyedBackground := by
  simp [yuvAt, h]

end RgbaImage

theorem Frame.composite_lumaAt? (f : Frame) (key : Key) (s : Sprite) (ax ay x y : Int) :
    (f.composite key s ax ay).lumaAt? x y =
      (f.lumaIndex? x y).bind fun n =>
        f.luma[n]?.map fun b => (Write.lastAt (key.writes f.shape s ax ay) .luma n).getD b := by
  have hshape : (f.composite key s ax ay).lumaIndex? x y = f.lumaIndex? x y := by
    simp [Frame.lumaIndex?, Frame.composite]
  unfold Frame.lumaAt?
  rw [hshape]
  congr 1
  funext n
  exact f.composite_plane_getElem? key s ax ay .luma n

/-- What compositing the sprite `s` decoded from `img` does to the luma under each transparent
pixel. -/
structure TransparentLuma (img : RgbaImage) (s : Sprite) : Prop where
  lumaKey : ∀ (f : Frame) (ax ay : Int) (x y : Nat), x < s.width → y < s.height →
    img.channel x y 3 < RgbaImage.alphaCutoff → ∀ k : LumaKey, k.threshold < 255 →
    (f.composite (.luma k) s ax ay).lumaAt? ((s.topLeft ax ay).1 + x) ((s.topLeft ax ay).2 + y) =
      f.lumaAt? ((s.topLeft ax ay).1 + x) ((s.topLeft ax ay).2 + y)
  standardKey : ∀ (f : Frame) (ax ay : Int) (x y : Nat), x < s.width → y < s.height →
    img.channel x y 3 < RgbaImage.alphaCutoff →
    (f.composite Key.standard s ax ay).lumaAt? ((s.topLeft ax ay).1 + x) ((s.topLeft ax ay).2 + y) =
      if YuvKey.standard.isBackground 255 (img.yuvAt (x / 2 * 2) (y / 2 * 2)).u
          (img.yuvAt (x / 2 * 2) (y / 2 * 2)).v then
        f.lumaAt? ((s.topLeft ax ay).1 + x) ((s.topLeft ax ay).2 + y)
      else (f.lumaIndex? ((s.topLeft ax ay).1 + x) ((s.topLeft ax ay).2 + y)).map fun _ => 255

/-- Every image with at least two even columns and rows decodes to a sprite whose transparent
pixels composite as `TransparentLuma` says. -/
theorem transparent_pixel_luma (img : RgbaImage) (hw : 2 ≤ RgbaImage.evenPart img.width)
    (hh : 2 ≤ RgbaImage.evenPart img.height) :
    ∃ s, img.toSprite? = .ok s ∧ TransparentLuma img s := by
  obtain ⟨s, hs, -, -, hluma, hchroma⟩ := img.toSprite?_eq_ok hw hh
  have hwhite : ∀ x y, x < s.width → y < s.height → img.channel x y 3 < RgbaImage.alphaCutoff →
      s.lumaAt? x y = some 255 := by
    intro x y hx hy hclear
    rw [hluma x y hx hy, img.yuvAt_of_transparent hclear]
    rfl
  refine ⟨s, hs, ⟨?_, ?_⟩⟩
  · intro f ax ay x y hx hy hclear k hk
    have hdrop : k.passing s x y = none := by
      simp only [LumaKey.passing, hwhite x y hx hy hclear]
      rw [if_neg (by exact fun h => absurd (UInt8.le_iff_toNat_le.1 h) (by
        have := UInt8.lt_iff_toNat_lt.1 hk
        simp at this ⊢
        omega))]
    rw [f.composite_lumaAt?]
    unfold Frame.lumaAt?
    cases hn : f.lumaIndex? ((s.topLeft ax ay).1 + x) ((s.topLeft ax ay).2 + y) with
    | none => rfl
    | some n =>
      simp only [Option.bind_some, Key.writes_luma]
      rw [LumaKey.lastAt_writes_luma, gridLast_lumaByteAt _ _ hx hy hn, hdrop]
      simp
  · intro f ax ay x y hx hy hclear
    have hw2 := s.dims.2.2.1
    have hh2 := s.dims.2.2.2
    have hblock := hchroma (x / 2) (y / 2) (by omega) (by omega)
    have hvis : YuvKey.standard.visible s x y =
        if YuvKey.standard.isBackground 255 (img.yuvAt (x / 2 * 2) (y / 2 * 2)).u
            (img.yuvAt (x / 2 * 2) (y / 2 * 2)).v then none
        else some (255, (img.yuvAt (x / 2 * 2) (y / 2 * 2)).u, (img.yuvAt (x / 2 * 2) (y / 2 * 2)).v) := by
      simp only [YuvKey.visible, hwhite x y hx hy hclear, hblock]
    rw [f.composite_lumaAt?]
    unfold Frame.lumaAt?
    cases hn : f.lumaIndex? ((s.topLeft ax ay).1 + x) ((s.topLeft ax ay).2 + y) with
    | none => split <;> rfl
    | some n =>
      obtain ⟨b, hb⟩ := Frame.luma_getElem?_of_lumaIndex? hn
      simp only [Option.bind_some, Option.map_some, Key.standard, Key.writes_yuv]
      rw [YuvKey.lastAt_writes_luma, gridLast_lumaByteAt _ _ hx hy hn, hvis, hb]
      split <;> rfl

/-- A 2x2 image: an opaque red pixel in the top-left corner, the other three transparent. -/
def redCornerImage : RgbaImage :=
  ⟨2, 2, #[255, 0, 0, 255, 0, 0, 0, 0, 0, 0, 0, 0, 0, 0, 0, 0], rfl⟩

theorem transparent_pixel_luma_red_corner :
    2 ≤ RgbaImage.evenPart redCornerImage.width ∧ 2 ≤ RgbaImage.evenPart redCornerImage.height ∧
      ∃ s, redCornerImage.toSprite? = .ok s ∧ TransparentLuma redCornerImage s :=
  ⟨by decide, by decide, transparent_pixel_luma redCornerImage (by decide) (by decide)⟩

end CameraOverlay
