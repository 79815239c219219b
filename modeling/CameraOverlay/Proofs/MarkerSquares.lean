import CameraOverlay.Composite.Marker
import CameraOverlay.Proofs.CompositeExact
/-!
# The squares that landmark markers darken

`Frame.drawMarkers` writes luma `0` on every pixel of the square drawn around each anchor, cut to
the frame. All its writes store the same byte, so what a pixel ends with does not depend on which
write lands on it last, only on whether one does (`Write.lastAt_of_values_eq`). A pixel is written
exactly when it lies in the square of some anchor (`Marker.Covers`), so drawing sets those
pixels to `0` and leaves every other luma byte and the whole chroma plane alone
(`drawMarkers_exact`). The order and repetition of the anchors, and a second drawing, change
nothing, since the set of covered pixels stays the same.
-/

namespace CameraOverlay

namespace Write

theorem lastAt_of_values_eq {ws : List Write} {v : UInt8} (hv : ∀ w ∈ ws, w.value = v)
    (p : Plane) (n : Nat) :
    lastAt ws p n = if ∃ w ∈ ws, w.plane = p ∧ w.index = n then some v else none := by
  induction ws with
  | nil => simp
  | cons w ws ih =>
    rw [lastAt_cons, ih (fun u hu => hv u (List.mem_cons_of_mem _ hu))]
    have hw : w.value = v := hv w List.mem_cons_self
    by_cases hlater : ∃ u ∈ ws, u.plane = p ∧ u.index = n
    · simp [hlater]
    · -- only the first write can land on the byte
      by_cases hfirst : w.plane = p ∧ w.index = n
      · simp [hlater, hfirst, valueAt, hw]
      · simp [hlater, hfirst, valueAt]

end Write

namespace Marker

variable (m : Marker)

/-- Pixel `(x, y)` lies in the square of `size` pixels whose top-left corner is anchor `a` less
`size / 2`. -/
def InSquare (a : Int × Int) (x y : Int) : Prop :=
  a.1 - (m.size / 2 : Nat) ≤ x ∧ x < a.1 - (m.size / 2 : Nat) + m.size ∧
    a.2 - (m.size / 2 : Nat) ≤ y ∧ y < a.2 - (m.size / 2 : Nat) + m.size

instance (a : Int × Int) (x y : Int) : Decidable (m.InSquare a x y) := by
  unfold InSquare; infer_instance

/-- Pixel `(x, y)` lies in the square of some anchor. -/
def Covers (anchors : List (Int × Int)) (x y : Int) : Prop := ∃ a ∈ anchors, m.InSquare a x y

instance (anchors : List (Int × Int)) (x y : Int) : Decidable (m.Covers anchors x y) := by
  unfold Covers; infer_instance

theorem mem_span {lo hi z : Int} : z ∈ span lo hi ↔ lo ≤ z ∧ z < hi := by
  simp only [span, List.mem_map, List.mem_range]
  constructor
  · rintro ⟨d, hd, rfl⟩
    omega
  · intro h
    exact ⟨(z - lo).toNat, by omega, by omega⟩

variable {m} {sh : Shape}

theorem mem_squareAt {ax ay : Int} {w : Write} :
    w ∈ m.squareAt sh ax ay ↔
      ∃ x y n, m.InSquare (ax, ay) x y ∧ sh.lumaIndex? x y = some n ∧ w = ⟨.luma, n, 0⟩ := by
  simp only [squareAt, List.mem_flatMap, List.mem_filterMap, Option.map_eq_some_iff, mem_span]
  constructor
  · rintro ⟨y, hy, x, hx, n, hn, rfl⟩
    exact ⟨x, y, n, by unfold InSquare; omega, hn, rfl⟩
  · rintro ⟨x, y, n, hsq, hn, rfl⟩
    have hon := ((sh.lumaIndex?_eq_some).1 hn).1
    unfold InSquare at hsq
    exact ⟨y, by omega, x, by omega, n, hn, rfl⟩

theorem mem_writes {anchors : List (Int × Int)} {w : Write} :
    w ∈ m.writes sh anchors ↔ ∃ a ∈ anchors,
      ∃ x y n, m.InSquare a x y ∧ sh.lumaIndex? x y = some n ∧ w = ⟨.luma, n, 0⟩ := by
  simp only [writes, List.mem_flatMap, mem_squareAt]

variable {anchors : List (Int × Int)}

theorem lastAt_writes_luma {x y : Int} {n : Nat} (hn : sh.lumaIndex? x y = some n) :
    Write.lastAt (m.writes sh anchors) .luma n = if m.Covers anchors x y then some 0 else none := by
  have hzero : ∀ w ∈ m.writes sh anchors, w.value = 0 := by
    intro w hw
    obtain ⟨_, _, _, _, _, _, _, rfl⟩ := mem_writes.1 hw
    rfl
  have hlands : (∃ w ∈ m.writes sh anchors, w.plane = .luma ∧ w.index = n) ↔ m.Covers anchors x y := by
    constructor
    · rintro ⟨w, hw, -, rfl⟩
      obtain ⟨a, ha, x', y', n', hsq, hn', rfl⟩ := mem_writes.1 hw
      obtain ⟨rfl, rfl⟩ := sh.lumaIndex?_inj hn' hn
      exact ⟨a, ha, hsq⟩
    · rintro ⟨a, ha, hsq⟩
      exact ⟨⟨.luma, n, 0⟩, mem_writes.2 ⟨a, ha, x, y, n, hsq, hn, rfl⟩, rfl, rfl⟩
  rw [Write.lastAt_of_values_eq hzero]
  by_cases hc : m.Covers anchors x y
  · rw [if_pos (hlands.2 hc), if_pos hc]
  · rw [if_neg (mt hlands.1 hc), if_neg hc]

theorem lastAt_writes_chroma (n : Nat) : Write.lastAt (m.writes sh anchors) .chroma n = none := by
  apply Write.lastAt_eq_none
  intro w hw
  obtain ⟨_, _, _, _, _, _, _, rfl⟩ := mem_writes.1 hw
  rfl

end Marker

namespace Frame

variable (f : Frame) (m : Marker) (anchors : List (Int × Int))

@[simp] theorem drawMarkers_shape : (f.drawMarkers m anchors).shape = f.shape :=
  f.overwrite_shape _

theorem drawMarkers_chroma : (f.drawMarkers m anchors).chroma = f.chroma := by
  apply Array.ext_getElem?
  intro n
  exact f.overwrite_plane_getElem?_of_lastAt_none (Marker.lastAt_writes_chroma n)

theorem drawMarkers_lumaAt? (x y : Int) :
    (f.drawMarkers m anchors).lumaAt? x y =
      if m.Covers anchors x y then (f.lumaAt? x y).map fun _ => 0 else f.lumaAt? x y := by
  rw [drawMarkers, f.overwrite_lumaAt? _ (fun n hn => Marker.lastAt_writes_luma hn)]
  by_cases hc : m.Covers anchors x y <;> simp [hc]

theorem chromaPairAt?_congr {g : Frame} (hs : g.shape = f.shape) (hc : g.chroma = f.chroma)
    (cx cy : Int) : g.chromaPairAt? cx cy = f.chromaPairAt? cx cy := by
  simp only [chromaPairAt?, chromaIndex?, hs, hc]

theorem drawMarkers_eq_of_covers_iff {m' : Marker} {anchors' : List (Int × Int)}
    (h : ∀ x y, m.Covers anchors x y ↔ m'.Covers anchors' x y) :
    f.drawMarkers m anchors = f.drawMarkers m' anchors' := by
  apply (f.drawMarkers m' anchors').ext_pixels
  · simp
  · intro x y
    rw [drawMarkers_lumaAt?, drawMarkers_lumaAt?]
    by_cases hc : m.Covers anchors x y
    · rw [if_pos hc, if_pos ((h x y).1 hc)]
    · rw [if_neg hc, if_neg (mt (h x y).2 hc)]
  · intro cx cy
    rw [chromaPairAt?_congr f (drawMarkers_shape f m anchors) (drawMarkers_chroma f m anchors),
      chromaPairAt?_congr f (drawMarkers_shape f m' anchors') (drawMarkers_chroma f m' anchors')]

end Frame

/-- Landmark markers set to `0` exactly the luma bytes of the pixels inside some anchor's square,
and leave every other byte as it was. -/
theorem drawMarkers_exact (f : Frame) (m : Marker) (anchors : List (Int × Int)) :
    (f.drawMarkers m anchors).shape = f.shape ∧
      (f.drawMarkers m anchors).chroma = f.chroma ∧
      (∀ x y, (f.drawMarkers m anchors).lumaAt? x y =
        if m.Covers anchors x y then (f.lumaAt? x y).map fun _ => 0 else f.lumaAt? x y) ∧
      (∀ anchors', (∀ a, a ∈ anchors' ↔ a ∈ anchors) →
        f.drawMarkers m anchors' = f.drawMarkers m anchors) ∧
      (f.drawMarkers m anchors).drawMarkers m anchors = f.drawMarkers m anchors := by
  refine ⟨f.drawMarkers_shape m anchors, f.drawMarkers_chroma m anchors,
    f.drawMarkers_lumaAt? m anchors, fun anchors' hmem => ?_, ?_⟩
  · -- the same anchors cover the same pixels
    apply f.drawMarkers_eq_of_covers_iff
    intro x y
    exact ⟨fun ⟨a, ha, hsq⟩ => ⟨a, (hmem a).1 ha, hsq⟩, fun ⟨a, ha, hsq⟩ => ⟨a, (hmem a).2 ha, hsq⟩⟩
  · -- a covered pixel is already `0`, and the rest are still the frame's
    apply (f.drawMarkers m anchors).ext_pixels
    · simp
    · intro x y
      rw [Frame.drawMarkers_lumaAt?, Frame.drawMarkers_lumaAt?]
      by_cases hc : m.Covers anchors x y
      · simp [hc, Option.map_map, Function.comp_def]
      · simp [hc]
    · intro cx cy
      apply Frame.chromaPairAt?_congr
      · simp
      · rw [Frame.drawMarkers_chroma, Frame.drawMarkers_chroma]

end CameraOverlay
