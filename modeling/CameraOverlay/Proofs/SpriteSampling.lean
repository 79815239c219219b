import CameraOverlay.Proofs.StickerImages
/-!
# Sampling a picture into a sprite

`Sprite.ofFn?` lays a picture out column by column: the luma of every pixel, then for every 2x2
block the chroma of its top-left pixel. The accessors `lumaAt?` and `chromaAt?` recompute the
positions from the coordinates, and `Sprite.Samples` says they read back exactly what was laid
out, and nothing outside the sprite. Sampling fails only on dimensions that cannot hold whole
blocks, and then always with `tooSmall`.

An RGBA image is sampled after cutting its dimensions to even ones; its pixels are still read at
their row-major place in the full image (`RgbaImage.getElem?_pixels`).
-/

namespace CameraOverlay

namespace Sprite

/-- A sprite samples the picture `pixel` at `w × h`. -/
structure Samples (s : Sprite) (w h : Nat) (pixel : Nat → Nat → Yuv) : Prop where
  width : s.width = w
  height : s.height = h
  luma : ∀ x y, s.lumaAt? x y = if x < w ∧ y < h then some (pixel x y).y else none
  chroma : ∀ cx cy, s.chromaAt? cx cy =
    if cx < w / 2 ∧ cy < h / 2 then some ((pixel (cx * 2) (cy * 2)).u, (pixel (cx * 2) (cy * 2)).v)
    else none

variable (s : Sprite)

theorem lumaAt?_eq_none {x y : Nat} (h : ¬ (x < s.width ∧ y < s.height)) : s.lumaAt? x y = none := by
  simp [lumaAt?, h]

theorem chromaAt?_eq_none {cx cy : Nat} (h : ¬ (cx < s.width / 2 ∧ cy < s.height / 2)) :
    s.chromaAt? cx cy = none := by
  simp [chromaAt?, h]

variable {w h : Nat} {pixel : Nat → Nat → Yuv}

theorem spriteDims_iff : SpriteDims w h ↔ ¬ (w < 2 ∨ h < 2 ∨ w % 2 = 1 ∨ h % 2 = 1) := by
  unfold SpriteDims
  omega

theorem ofFn?_eq_error_iff {e : AssetError} :
    ofFn? w h pixel = .error e ↔ (w < 2 ∨ h < 2 ∨ w % 2 = 1 ∨ h % 2 = 1) ∧ e = .tooSmall w h := by
  by_cases hd : SpriteDims w h
  · obtain ⟨s, hs, -⟩ := ofFn?_eq_ok pixel hd
    rw [hs]
    exact iff_of_false (fun h => nomatch h) (fun h => spriteDims_iff.1 hd h.1)
  · have hbad := Decidable.of_not_not (mt spriteDims_iff.2 hd)
    simp only [ofFn?, ofPlanes?, dif_neg hd, Except.error.injEq]
    exact ⟨fun he => ⟨hbad, he.symm⟩, fun he => he.2.symm⟩

theorem samples_of_ofFn? {s : Sprite} (hs : ofFn? w h pixel = .ok s) : s.Samples w h pixel := by
  have hd : SpriteDims w h := by
    by_cases hd : SpriteDims w h
    · exact hd
    · simp [ofFn?, ofPlanes?, hd] at hs
  obtain ⟨s', hs', hw, hh, hluma, hchroma⟩ := ofFn?_eq_ok pixel hd
  obtain rfl : s = s' := by rw [hs] at hs'; exact Except.ok.inj hs'
  subst hw hh
  refine ⟨rfl, rfl, fun x y => ?_, fun cx cy => ?_⟩
  · by_cases hin : x < s.width ∧ y < s.height
    · rw [if_pos hin, s.lumaAt?_of_luma_eq hluma hin.1 hin.2]
    · rw [if_neg hin, s.lumaAt?_eq_none hin]
  · by_cases hin : cx < s.width / 2 ∧ cy < s.height / 2
    · rw [if_pos hin, s.chromaAt?_of_chroma_eq hchroma hin.1 hin.2]
    · rw [if_neg hin, s.chromaAt?_eq_none hin]

end Sprite

namespace RgbaImage

variable (img : RgbaImage)

theorem getElem?_pixels {x y c : Nat} (hx : x < img.width) (hy : y < img.height) (hc : c < 4) :
    img.pixels[(y * img.width + x) * 4 + c]? = some (img.channel x y c) := by
  have hrow : y * img.width + x < img.width * img.height :=
    calc y * img.width + x < (y + 1) * img.width := by rw [Nat.succ_mul]; omega
      _ ≤ img.height * img.width := Nat.mul_le_mul_right _ hy
      _ = img.width * img.height := Nat.mul_comm _ _
  have hlt : (y * img.width + x) * 4 + c < img.pixels.size := by
    rw [img.pixels_size]
    omega
  simp [channel, hlt]

theorem toSprite?_eq_error_iff {e : AssetError} :
    img.toSprite? = .error e ↔ (evenPart img.width < 2 ∨ evenPart img.height < 2) ∧
      e = .tooSmall (evenPart img.width) (evenPart img.height) := by
  have hw := evenPart_even img.width
  have hh := evenPart_even img.height
  rw [toSprite?, Sprite.ofFn?_eq_error_iff]
  constructor
  · rintro ⟨hbad, rfl⟩
    exact ⟨by omega, rfl⟩
  · rintro ⟨hbad, rfl⟩
    exact ⟨by omega, rfl⟩

end RgbaImage

/-- Sampling a picture fails with `tooSmall` exactly on dimensions below two or odd, and
otherwise reads the picture back; an RGBA image is sampled at its dimensions cut to even ones. -/
theorem sampled_sprite_reads_back :
    (∀ w h (pixel : Nat → Nat → Yuv) e, Sprite.ofFn? w h pixel = .error e ↔
      (w < 2 ∨ h < 2 ∨ w % 2 = 1 ∨ h % 2 = 1) ∧ e = .tooSmall w h) ∧
    (∀ w h (pixel : Nat → Nat → Yuv), SpriteDims w h →
      ∃ s, Sprite.ofFn? w h pixel = .ok s ∧ s.Samples w h pixel) ∧
    (∀ img : RgbaImage,
      (∀ e, img.toSprite? = .error e ↔
        (RgbaImage.evenPart img.width < 2 ∨ RgbaImage.evenPart img.height < 2) ∧
          e = .tooSmall (RgbaImage.evenPart img.width) (RgbaImage.evenPart img.height)) ∧
      (2 ≤ RgbaImage.evenPart img.width → 2 ≤ RgbaImage.evenPart img.height →
        ∃ s, img.toSprite? = .ok s ∧
          s.Samples (RgbaImage.evenPart img.width) (RgbaImage.evenPart img.height) img.yuvAt)) ∧
    ∀ (img : RgbaImage) (x y c : Nat), x < img.width → y < img.height → c < 4 →
      img.pixels[(y * img.width + x) * 4 + c]? = some (img.channel x y c) := by
  have hsample : ∀ w h (pixel : Nat → Nat → Yuv), SpriteDims w h →
      ∃ s, Sprite.ofFn? w h pixel = .ok s ∧ s.Samples w h pixel := by
    intro w h pixel hd
    obtain ⟨s, hs, -⟩ := Sprite.ofFn?_eq_ok pixel hd
    exact ⟨s, hs, Sprite.samples_of_ofFn? hs⟩
  refine ⟨fun _ _ _ _ => Sprite.ofFn?_eq_error_iff, hsample,
    fun img => ⟨fun _ => img.toSprite?_eq_error_iff, fun hw hh => ?_⟩,
    fun img _ _ _ hx hy hc => img.getElem?_pixels hx hy hc⟩
  exact hsample _ _ img.yuvAt ⟨hw, hh, RgbaImage.evenPart_even _, RgbaImage.evenPart_even _⟩

end CameraOverlay
