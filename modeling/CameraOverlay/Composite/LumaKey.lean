import CameraOverlay.Composite.Key
/-!
# Compositing with a luma key

A sprite centred on an anchor covers the frame rectangle that starts at `Sprite.topLeft`. The
luma pass copies every sprite pixel whose luma passes the key to the frame pixel under it. The
chroma pass lays the sprite's block grid on the frame's block grid, starting at the block that
holds the top-left pixel (halving with the floor, also for negative positions), and copies a
block's pair when the luma of the block's top-left sprite pixel passes the key. Positions off
the frame are skipped one by one, so a sprite hanging over an edge never wraps around.

The result is a list of writes that depends on the frame only through its shape.
-/

namespace CameraOverlay

namespace LumaKey

variable (k : LumaKey) (shape : Shape) (s : Sprite)

/-- Luma writes of the sprite with its top-left pixel at `(left, top)`, column by column. -/
def lumaWrites (left top : Int) : List Write :=
  (List.range s.width).flatMap fun i =>
    (List.range s.height).filterMap fun j =>
      match s.lumaAt? i j with
      | some value =>
        if value ≤ k.threshold then
          (shape.lumaIndex? (left + i) (top + j)).map fun pt => ⟨.luma, pt, value⟩
        else none
      | none => none

/-- The writes of one chroma block of the sprite, at frame block `(cx, cy)`. -/
def blockWrites (ci cj : Nat) (cx cy : Int) : List Write :=
  match s.lumaAt? (ci * 2) (cj * 2), s.chromaAt? ci cj, shape.chromaIndex? cx cy with
  | some key, some (u, v), some base =>
    if key ≤ k.threshold then [⟨.chroma, base + k.uSlot, u⟩, ⟨.chroma, base + k.vSlot, v⟩]
    else []
  | _, _, _ => []

/-- Chroma writes of the sprite with its top-left pixel at `(left, top)`: sprite block
`(ci, cj)` lands on frame block `(left / 2 + ci, top / 2 + cj)`, halving with the floor. -/
def chromaWrites (left top : Int) : List Write :=
  (List.range (s.width / 2)).flatMap fun ci =>
    (List.range (s.height / 2)).flatMap fun cj =>
      k.blockWrites shape s ci cj (left / 2 + ci) (top / 2 + cj)

/-- All writes of the sprite centred on `(ax, ay)`: the luma pass, then the chroma pass. -/
def writes (ax ay : Int) : List Write :=
  let (left, top) := s.topLeft ax ay
  k.lumaWrites shape s left top ++ k.chromaWrites shape s left top

end LumaKey

end CameraOverlay
