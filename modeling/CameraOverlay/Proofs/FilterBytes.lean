import CameraOverlay.Filter
import CameraOverlay.Proofs.FrameIndex
import CameraOverlay.Proofs.Overwrite
/-!
# What a filter does to each byte

A filter acts on a frame byte by byte: chroma byte `k` becomes `Preset.chromaByte p k` of
itself, every luma byte becomes `Preset.lumaByte p` of itself, and the dimensions stay
(`Frame.applyFilter_luma`, `Frame.applyFilter_chroma`).

A gain and a sepia tone walk the chroma plane two bytes at a time (`mapPairs`), and a walk like
that leaves a last byte without a partner alone (`getElem?_mapPairs`). A frame's chroma plane
holds one pair per 2x2 block, so its length is even (`Frame.chroma_size_even`) and no byte is
left out.

From the byte-wise description follow the laws of repetition: the negative undoes itself, and
mono and sepia, which set bytes to constants, change nothing the second time
(`filter_acts_bytewise`).
-/

namespace CameraOverlay

section Pairs

variable (g0 g1 : UInt8 → UInt8)

/-- Byte `k` after a pairwise rewrite: `g0` or `g1` by its parity inside a whole pair, else
unchanged. -/
theorem getElem?_mapPairs (l : List UInt8) (k : Nat) :
    (mapPairs g0 g1 l)[k]? =
      if k < l.length / 2 * 2 then l[k]?.map (if k % 2 = 0 then g0 else g1) else l[k]? := by
  fun_induction mapPairs g0 g1 l generalizing k with
  | case1 a b rest ih =>
    have hlen : (rest.length + 2) / 2 * 2 = rest.length / 2 * 2 + 2 := by omega
    rcases k with _ | _ | k
    · simp [hlen]
    · simp [hlen]
    · -- two bytes further on, in the rest of the list, with the same parity
      have hpar : (k + 2) % 2 = k % 2 := Nat.add_mod_right k 2
      simp only [List.getElem?_cons_succ, List.length_cons, hlen, hpar, ih k]
      by_cases hk : k < rest.length / 2 * 2
      · simp [hk]
      · simp [hk]
  | case2 rest h =>
    have hshort : rest.length < 2 := by
      rcases rest with _ | ⟨a, _ | ⟨b, rest⟩⟩
      · simp
      · simp
      · exact absurd rfl (h a b rest)
    have hnone : rest.length / 2 * 2 = 0 := by omega
    simp [hnone]

theorem getElem?_mapPairs_of_even {l : List UInt8} (hl : l.length % 2 = 0) (k : Nat) :
    (mapPairs g0 g1 l)[k]? = l[k]?.map (if k % 2 = 0 then g0 else g1) := by
  rw [getElem?_mapPairs]
  split
  · rfl
  · next hk =>
    have hout : l.length ≤ k := by omega
    simp [List.getElem?_eq_none hout]

end Pairs

/-- What the filter does to one luma byte: only the negative touches luma. -/
def Preset.lumaByte : Preset → UInt8 → UInt8
  | negative => fun b => 255 - b
  | _ => id

namespace Frame

variable (f : Frame)

theorem chroma_size_even : f.chroma.size % 2 = 0 := by
  have hblocks : f.width * f.height / 2 = f.width / 2 * (f.height / 2) * 2 :=
    f.shape.half_area_eq_blocks f.dims.2.2.1 f.dims.2.2.2
  rw [f.chroma_size, hblocks]
  exact Nat.mul_mod_left _ 2

theorem mapChromaPairs_chroma_getElem? (g0 g1 : UInt8 → UInt8) (k : Nat) :
    (f.mapChromaPairs g0 g1).chroma[k]? = f.chroma[k]?.map (if k % 2 = 0 then g0 else g1) := by
  have heven : f.chroma.toList.length % 2 = 0 := by
    rw [Array.length_toList]
    exact f.chroma_size_even
  simp only [mapChromaPairs, List.getElem?_toArray, getElem?_mapPairs_of_even g0 g1 heven,
    Array.getElem?_toList]

@[simp] theorem applyFilter_width (p : Preset) : (f.applyFilter p).width = f.width := by
  cases p <;> rfl

@[simp] theorem applyFilter_height (p : Preset) : (f.applyFilter p).height = f.height := by
  cases p <;> rfl

theorem applyFilter_luma (p : Preset) (k : Nat) :
    (f.applyFilter p).luma[k]? = f.luma[k]?.map p.lumaByte := by
  cases p <;> simp [applyFilter, Preset.lumaByte]

theorem applyFilter_chroma (p : Preset) (k : Nat) :
    (f.applyFilter p).chroma[k]? = f.chroma[k]?.map (p.chromaByte k) := by
  cases p with
  | negative =>
    simp only [applyFilter, mapChroma_chroma, mapLuma_chroma, Array.getElem?_map]
    exact Option.map_congr fun b _ => rfl
  | mono =>
    simp only [applyFilter, mapChroma_chroma, Array.getElem?_map]
    exact Option.map_congr fun b _ => rfl
  | sepia _ _ | gain _ _ =>
    rw [applyFilter, mapChromaPairs_chroma_getElem?]
    exact Option.map_congr fun b _ => by by_cases hk : k % 2 = 0 <;> simp [hk, Preset.chromaByte]

theorem applyFilter_applyFilter_eq {p q r : Preset}
    (hl : ∀ b, q.lumaByte (p.lumaByte b) = r.lumaByte b)
    (hc : ∀ k b, q.chromaByte k (p.chromaByte k b) = r.chromaByte k b) :
    (f.applyFilter p).applyFilter q = f.applyFilter r := by
  apply Frame.ext
  · simp
  · simp
  · apply Array.ext_getElem?
    intro k
    rw [applyFilter_luma, applyFilter_luma, applyFilter_luma, Option.map_map]
    exact Option.map_congr fun b _ => hl b
  · apply Array.ext_getElem?
    intro k
    rw [applyFilter_chroma, applyFilter_chroma, applyFilter_chroma, Option.map_map]
    exact Option.map_congr fun b _ => hc k b

theorem applyFilter_involutive {p : Preset} (hl : ∀ b, p.lumaByte (p.lumaByte b) = b)
    (hc : ∀ k b, p.chromaByte k (p.chromaByte k b) = b) :
    (f.applyFilter p).applyFilter p = f := by
  apply Frame.ext
  · simp
  · simp
  · apply Array.ext_getElem?
    intro k
    rw [applyFilter_luma, applyFilter_luma, Option.map_map]
    simp [Function.comp_def, hl]
  · apply Array.ext_getElem?
    intro k
    rw [applyFilter_chroma, applyFilter_chroma, Option.map_map]
    simp [Function.comp_def, hc]

end Frame

theorem Preset.negative_lumaByte_lumaByte (b : UInt8) :
    negative.lumaByte (negative.lumaByte b) = b := by
  simp only [lumaByte]
  grind

theorem Preset.negative_chromaByte_chromaByte (k : Nat) (b : UInt8) :
    negative.chromaByte k (negative.chromaByte k b) = b := by
  simp only [chromaByte]
  grind

/-- Every filter changes a frame byte by byte, by `lumaByte` and `chromaByte`; hence the negative
undoes itself, and mono and sepia change nothing the second time. -/
theorem filter_acts_bytewise (f : Frame) (p : Preset) :
    (f.applyFilter p).width = f.width ∧ (f.applyFilter p).height = f.height ∧
    (∀ k : Nat, (f.applyFilter p).luma[k]? = f.luma[k]?.map p.lumaByte) ∧
    (∀ k : Nat, (f.applyFilter p).chroma[k]? = f.chroma[k]?.map (p.chromaByte k)) ∧
    (f.applyFilter .negative).applyFilter .negative = f ∧
    (f.applyFilter .mono).applyFilter .mono = f.applyFilter .mono ∧
    ∀ u v, (f.applyFilter (.sepia u v)).applyFilter (.sepia u v) = f.applyFilter (.sepia u v) := by
  refine ⟨f.applyFilter_width p, f.applyFilter_height p, f.applyFilter_luma p,
    f.applyFilter_chroma p, ?_, ?_, ?_⟩
  · exact f.applyFilter_involutive Preset.negative_lumaByte_lumaByte
      Preset.negative_chromaByte_chromaByte
  · -- mono sets every chroma byte to one constant and keeps luma
    exact f.applyFilter_applyFilter_eq (fun _ => rfl) (fun _ _ => rfl)
  · -- sepia sets each chroma byte to a constant chosen by its parity and keeps luma
    intro u v
    exact f.applyFilter_applyFilter_eq (fun _ => rfl) (fun _ _ => rfl)

end CameraOverlay
