import CameraOverlay.Composite.LumaKey
import CameraOverlay.Composite.YuvKey
/-!
# Compositing a sprite onto a frame

`Frame.composite` stores the writes of the chosen key. Because those writes are computed from
the key, the sprite, the anchor and the frame's shape alone, compositing overwrites a fixed set
of bytes with fixed values, whatever the frame held before.
-/

namespace CameraOverlay

/-- The writes of a sprite centred on `(ax, ay)` over a frame of the given shape. -/
def Key.writes : Key → Shape → Sprite → Int → Int → List Write
  | .luma k, shape, s, ax, ay => k.writes shape s ax ay
  | .yuv k, shape, s, ax, ay => k.writes shape s ax ay

/-- Composites a sprite centred on `(ax, ay)` with the given key. -/
def Frame.composite (f : Frame) (key : Key) (s : Sprite) (ax ay : Int) : Frame :=
  f.overwrite (key.writes f.shape s ax ay)

end CameraOverlay
