import CameraOverlay.Frame
import CameraOverlay.Color
/-!
# Previewing a frame in RGB

A preview turns each pixel of a frame into RGB from its own luma byte and the chroma pair of the
2x2 block it lies in (`Color.yuvToRgb`). Pixels are listed row by row, top to bottom and left to
right within a row, three bytes each.

The preview finds those bytes with its own offsets, computed in 32-bit arithmetic: the luma
offset `y * width + x` and the block number `(y / 2) * (width / 2) + x / 2` wrap around past
`2 ^ 32`.
-/

namespace CameraOverlay

/-- An RGB picture: its size and its pixels, row by row. -/
structure RgbPicture where
  width : Nat
  height : Nat
  pixels : Array Rgb

namespace RgbPicture

/-- The bytes of a picture: red, green and blue of each pixel in turn. -/
def bytes (p : RgbPicture) : Array UInt8 :=
  p.pixels.foldl (fun acc c => acc.push c.r |>.push c.g |>.push c.b) #[]

end RgbPicture

namespace Frame

variable (f : Frame)

/-- The offset in the luma plane of pixel `(x, y)`: `y * width + x` in 32-bit arithmetic. -/
def lumaOffset (x y : Nat) : Nat := (y.toUInt32 * f.width.toUInt32 + x.toUInt32).toNat

/-- The offset in the chroma plane of the pair of the block holding pixel `(x, y)`: the block's
number `(y / 2) * (width / 2) + x / 2` in 32-bit arithmetic, times two. -/
def chromaBase (x y : Nat) : Nat :=
  (y.toUInt32 / 2 * (f.width.toUInt32 / 2) + x.toUInt32 / 2).toNat * 2

def previewPixel (x y : Nat) : Rgb :=
  let base := f.chromaBase x y
  Color.yuvToRgb ⟨f.luma.getD (f.lumaOffset x y) 0, f.chroma.getD base 0,
    f.chroma.getD (base + 1) 0⟩

/-- The preview of a frame: pixel `k` is pixel `(k % width, k / width)`. -/
def preview : RgbPicture :=
  { width := f.width
    height := f.height
    pixels := Array.ofFn fun (k : Fin (f.width * f.height)) =>
      f.previewPixel (k.val % f.width) (k.val / f.width) }

end Frame

end CameraOverlay
