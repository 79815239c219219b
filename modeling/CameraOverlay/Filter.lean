import CameraOverlay.Frame
import CameraOverlay.Color
/-!
# Colour filters

A filter changes a whole frame, byte by byte: `mono` sets every chroma byte to neutral,
`negative` inverts every luma and chroma byte, `sepia` sets every pair to one fixed `(U, V)`,
and a gain scales U bytes (even positions of the chroma plane) and V bytes (odd positions) by
two factors. Scaling multiplies in double precision, clamps to `0..255` and drops the fraction;
a product that is not a number becomes `0`.

The filter catalog numbers twelve presets from `1`; id `0` and ids past the table mean no filter.
-/

namespace CameraOverlay

inductive Preset where
  | mono
  | negative
  | sepia (u v : UInt8)
  | gain (gainU gainV : Float)
deriving Repr, Inhabited

/-- Scales a byte by a gain: clamp to `0..255`, then drop the fraction. -/
def scaleByte (value : UInt8) (gain : Float) : UInt8 :=
  let x := Float.ofNat value.toNat * gain
  (if x < 0 then 0 else if x > 255 then 255 else x).toUInt8

namespace Preset

/-- What the filter does to one chroma byte at position `k`. -/
def chromaByte : Preset → Nat → UInt8 → UInt8
  | mono, _, _ => neutralChroma
  | negative, _, b => 255 - b
  | sepia u v, k, _ => if k % 2 = 0 then u else v
  | gain gu gv, k, b => if k % 2 = 0 then scaleByte b gu else scaleByte b gv

end Preset

/-- Applies a filter to the whole frame. A gain and a sepia tone rewrite the chroma plane pair by
pair, U then V; mono fills it with the neutral value; the negative inverts both planes. -/
def Frame.applyFilter (f : Frame) : Preset → Frame
  | .gain gu gv => f.mapChromaPairs (fun b => scaleByte b gu) (fun b => scaleByte b gv)
  | .mono => f.mapChroma fun _ => neutralChroma
  | .negative => (f.mapLuma fun b => 255 - b).mapChroma fun b => 255 - b
  | .sepia u v => f.mapChromaPairs (fun _ => u) (fun _ => v)

structure FilterSpec where
  name : String
  preset : Preset
deriving Repr, Inhabited

namespace FilterSpec

/-- The twelve catalog filters, in id order from `1`. -/
def table : List FilterSpec :=
  [⟨"mono", .mono⟩, ⟨"negative", .negative⟩, ⟨"sepia", .sepia 114 144⟩,
   ⟨"red1", .gain 0.95 1.05⟩, ⟨"red2", .gain 0.9 1.07⟩, ⟨"red3", .gain 0.85 1.1⟩,
   ⟨"blue1", .gain 1.05 0.95⟩, ⟨"blue2", .gain 1.07 0.9⟩, ⟨"blue3", .gain 1.1 0.85⟩,
   ⟨"green1", .gain 0.97 0.96⟩, ⟨"green2", .gain 0.95 0.95⟩, ⟨"green3", .gain 0.93 0.93⟩]

/-- Number of filter ids, counting `0` for no filter. -/
def slots : Nat := table.length + 1

/-- The filter with this id; ids start at `1`. -/
def byId? (id : Nat) : Option FilterSpec :=
  if id = 0 then none else table[id - 1]?

end FilterSpec

end CameraOverlay
