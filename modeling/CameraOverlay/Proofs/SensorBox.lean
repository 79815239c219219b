import CameraOverlay.Face.Basic
/-!
# Sensor boxes keep their size

`FaceRect.ofSensor` turns a box `(x, y, width, height)` reported in the sensor's orientation into
frame orientation: `x` becomes the top edge and `x + height` the bottom, the frame height less `y`
the right edge and less `y + width` the left one, each sum saturating at the ends of the 32-bit
range. When none of the three sums leaves that range, nothing saturates and the box comes out
with exactly the reported width and height (`ofSensor_keeps_size`).

A box's width and height are differences of two 32-bit edges, so they need 33 bits: the 64-bit
subtraction by which a box measures itself is exact for every box (`FaceRect.width_toInt64`,
`FaceRect.height_toInt64`).
-/

namespace CameraOverlay

/-- Whether an integer is a 32-bit signed number. -/
def InInt32 (z : Int) : Prop := Int32.minValue.toInt ≤ z ∧ z ≤ Int32.maxValue.toInt

instance (z : Int) : Decidable (InInt32 z) := inferInstanceAs (Decidable (_ ∧ _))

theorem satAdd_toInt {a b : Int32} (h : InInt32 (a.toInt + b.toInt)) :
    (satAdd a b).toInt = a.toInt + b.toInt :=
  Int32.toInt_ofIntClamp h.1 h.2

theorem satSub_toInt {a b : Int32} (h : InInt32 (a.toInt - b.toInt)) :
    (satSub a b).toInt = a.toInt - b.toInt :=
  Int32.toInt_ofIntClamp h.1 h.2

theorem Int32.toInt64_sub_toInt (a b : Int32) :
    (a.toInt64 - b.toInt64).toInt = a.toInt - b.toInt := by
  rw [Int64.toInt_sub, Int32.toInt_toInt64, Int32.toInt_toInt64]
  have ha := a.le_toInt
  have ha' := a.toInt_lt
  have hb := b.le_toInt
  have hb' := b.toInt_lt
  apply Int.bmod_eq_of_le <;> omega

namespace FaceRect

theorem width_toInt64 (r : FaceRect) : (r.right.toInt64 - r.left.toInt64).toInt = r.width :=
  Int32.toInt64_sub_toInt r.right r.left

theorem height_toInt64 (r : FaceRect) : (r.bottom.toInt64 - r.top.toInt64).toInt = r.height :=
  Int32.toInt64_sub_toInt r.bottom r.top

variable {x y width height frameHeight : Int32}

@[simp] theorem ofSensor_top : (ofSensor x y width height frameHeight).top = x := rfl

theorem ofSensor_height (h : InInt32 (x.toInt + height.toInt)) :
    (ofSensor x y width height frameHeight).height = height.toInt := by
  have hbottom : (satAdd x height).toInt = x.toInt + height.toInt := satAdd_toInt h
  simp only [FaceRect.height, ofSensor, hbottom]
  omega

theorem ofSensor_width (hright : InInt32 (frameHeight.toInt - y.toInt))
    (hleft : InInt32 (frameHeight.toInt - y.toInt - width.toInt)) :
    (ofSensor x y width height frameHeight).width = width.toInt := by
  have hr : (satSub frameHeight y).toInt = frameHeight.toInt - y.toInt := satSub_toInt hright
  have hl : (satSub (satSub frameHeight y) width).toInt =
      frameHeight.toInt - y.toInt - width.toInt := by
    rw [satSub_toInt (by rwa [hr]), hr]
  simp only [FaceRect.width, ofSensor, hr, hl]
  omega

end FaceRect

/-- A sensor box becomes a box whose top edge is `x`, with exactly the reported width and height
when no edge saturates. -/
theorem ofSensor_keeps_size (x y width height frameHeight : Int32) :
    let r := FaceRect.ofSensor x y width height frameHeight
    r.top = x ∧
    (InInt32 (x.toInt + height.toInt) → InInt32 (frameHeight.toInt - y.toInt) →
      InInt32 (frameHeight.toInt - y.toInt - width.toInt) →
        r.width = width.toInt ∧ r.height = height.toInt) ∧
    (r.right.toInt64 - r.left.toInt64).toInt = r.width ∧
    (r.bottom.toInt64 - r.top.toInt64).toInt = r.height := by
  intro r
  refine ⟨FaceRect.ofSensor_top, ?_, r.width_toInt64, r.height_toInt64⟩
  intro hbottom hright hleft
  exact ⟨FaceRect.ofSensor_width hright hleft, FaceRect.ofSensor_height hbottom⟩

-- Past the range the bottom edge sticks at the largest 32-bit number and the height is lost.
example : (FaceRect.ofSensor 2147483647 (-2147483648) 2147483647 2147483647 144).height = 0 := by
  decide

end CameraOverlay
