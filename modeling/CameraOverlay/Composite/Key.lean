import CameraOverlay.Frame
import CameraOverlay.Sprite
/-!
# Keying rules for compositing

Compositing copies the sprite's foreground onto a frame. Which sprite pixels count as
foreground is the key:

* a luma key keeps pixels whose luma is at most a threshold, so bright pixels stand for
  transparency; its chroma offset chooses whether U or V goes first in a written pair;
* a YUV key drops pixels that are bright and nearly grey (luma above a threshold and both chroma
  bytes inside a neutral band), and may store each written pair as `(V, U)`.

The catalog uses three fixed keys: `Key.copy`, `Key.plain` and `Key.standard`.
-/

namespace CameraOverlay

/-- A luma key: sprite pixels with luma at most `threshold` are copied. Of a written chroma
pair, U goes to slot `chromaOffset % 2` and V to the other slot. -/
structure LumaKey where
  threshold : UInt8
  chromaOffset : Nat
deriving Repr, DecidableEq

/-- A YUV key: pixels brighter than `brightThreshold` whose chroma lies in `bandLo..bandHi` on
both axes are background. Written pairs are `(V, U)` when `swapChroma` holds. -/
structure YuvKey where
  brightThreshold : UInt8
  bandLo : UInt8
  bandHi : UInt8
  swapChroma : Bool
deriving Repr, DecidableEq

namespace YuvKey

/-- Whether a sprite pixel is background under this key. -/
def isBackground (k : YuvKey) (y u v : UInt8) : Bool :=
  decide (y > k.brightThreshold) && decide (k.bandLo ≤ u) && decide (u ≤ k.bandHi) &&
    decide (k.bandLo ≤ v) && decide (v ≤ k.bandHi)

/-- Bright near-grey pixels are background; pairs are stored `(V, U)`. -/
def standard : YuvKey := ⟨230, 124, 132, true⟩

end YuvKey

namespace LumaKey

/-- Threshold 220, U in the second slot of each pair. -/
def copy : LumaKey := ⟨220, 1⟩

/-- Threshold 220, U in the first slot of each pair. -/
def plain : LumaKey := ⟨220, 0⟩

/-- The slot of U in a written pair. -/
def uSlot (k : LumaKey) : Nat := k.chromaOffset % 2

/-- The slot of V in a written pair: the one U does not take. -/
def vSlot (k : LumaKey) : Nat := 1 - k.uSlot

end LumaKey

/-- How a sprite is composited: by a luma key or by a YUV key. -/
inductive Key where
  | luma (k : LumaKey)
  | yuv (k : YuvKey)
deriving Repr, DecidableEq

namespace Key

/-- The catalog's luma key with U second. -/
def copy : Key := .luma LumaKey.copy

/-- The catalog's luma key with U first. -/
def plain : Key := .luma LumaKey.plain

def standard : Key := .yuv YuvKey.standard

end Key

end CameraOverlay
