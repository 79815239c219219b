/-!
# Colour conversion between RGB and YUV

Full-range BT.601, the variant used by JPEG: luma is a weighted sum of the three primaries, and
the two chroma channels are the blue and red differences offset by `128`. Each channel is an
affine combination evaluated in double precision from left to right, then rounded to the
nearest integer (halves away from zero) and clamped to a byte. Keeping the evaluation order
matters: the sums are not associative in floating point, and a one-step difference changes a
rounded byte.
-/

namespace CameraOverlay

/-- One pixel in YUV: luma `y`, blue difference `u`, red difference `v`. -/
structure Yuv where
  y : UInt8
  u : UInt8
  v : UInt8
deriving Repr, DecidableEq, Inhabited

structure Rgb where
  r : UInt8
  g : UInt8
  b : UInt8
deriving Repr, DecidableEq, Inhabited

/-- The chroma value that carries no colour. -/
def neutralChroma : UInt8 := 128

namespace Color

def byteValue (b : UInt8) : Float := Float.ofNat b.toNat

/-- Rounds to the nearest integer with halves away from zero, then clamps into `0..255`.
A value that is not a number lands on `0`, as the conversion of such a value to a byte does. -/
def toByte (x : Float) : UInt8 :=
  let r := x.round
  (if r < 0 then 0 else if r > 255 then 255 else r).toUInt8

/-- BT.601 full range, RGB to YUV. -/
def rgbToYuv (r g b : UInt8) : Yuv :=
  let r := byteValue r
  let g := byteValue g
  let b := byteValue b
  { y := toByte (0.299 * r + 0.587 * g + 0.114 * b)
    u := toByte (128.0 - 0.168736 * r - 0.331264 * g + 0.5 * b)
    v := toByte (128.0 + 0.5 * r - 0.418688 * g - 0.081312 * b) }

/-- BT.601 full range, YUV to RGB. -/
def yuvToRgb (p : Yuv) : Rgb :=
  let y := byteValue p.y
  let u := byteValue p.u - 128.0
  let v := byteValue p.v - 128.0
  { r := toByte (y + 1.402 * v)
    g := toByte (y - 0.344136 * u - 0.714136 * v)
    b := toByte (y + 1.772 * u) }

end Color

end CameraOverlay
