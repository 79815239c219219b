import CameraOverlay.Composite.Key
/-!
# Compositing with a YUV key

The sprite is visited column by column. A pixel that is background under the key is skipped;
any other pixel writes its luma to the frame pixel under it and overwrites the whole chroma pair
of the frame block that pixel falls in, with the sprite chroma of the pixel's own block. A
frame block therefore ends with the pair of the last foreground pixel visited in it. Positions
off the frame are skipped one by one.

The result is a list of writes that depends on the frame only through its shape.
-/

namespace CameraOverlay

namespace YuvKey

variable (k : YuvKey) (shape : Shape) (s : Sprite)

/-- A chroma pair in the order the key stores it. -/
def storedPair (u v : UInt8) : UInt8 × UInt8 :=
  if k.swapChroma then (v, u) else (u, v)

/-- The writes of foreground pixel `(i, j)` of the sprite at frame position `(fx, fy)`. -/
def pixelWrites (y u v : UInt8) (fx fy : Int) : List Write :=
  let lumaPart : List Write :=
    match shape.lumaIndex? fx fy with
    | some pt => [⟨.luma, pt, y⟩]
    | none => []
  let chromaPart : List Write :=
    match shape.chromaIndex? (fx / 2) (fy / 2) with
    | some base =>
      let (first, second) := k.storedPair u v
      [⟨.chroma, base, first⟩, ⟨.chroma, base + 1, second⟩]
    | none => []
  lumaPart ++ chromaPart

/-- All writes of the sprite centred on `(ax, ay)`, column by column. -/
def writes (ax ay : Int) : List Write :=
  let (left, top) := s.topLeft ax ay
  (List.range s.width).flatMap fun i =>
    (List.range s.height).flatMap fun j =>
      match s.lumaAt? i j, s.chromaAt? (i / 2) (j / 2) with
      | some y, some (u, v) =>
        if k.isBackground y u v then []
        else k.pixelWrites shape y u v (left + i) (top + j)
      | _, _ => []

end YuvKey

end CameraOverlay
