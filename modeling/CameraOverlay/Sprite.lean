import CameraOverlay.Color
/-!
# Sticker sprites

A sprite is a small picture in 4:2:0 layout stored column by column: luma sample `(x, y)` is at
`x * h + y`, and the `(U, V)` pair of chroma block `(cx, cy)` starts at `(cx * (h / 2) + cy) * 2`.
Both dimensions are at least two and even, so every block is whole; these facts are fields of
`Sprite`.

`Sprite.ofFn?` samples a picture function: luma at every pixel, and each block's chroma at its
top-left pixel. `Sprite.ofPlanes?` accepts planes given directly, after the same checks.
-/

namespace CameraOverlay

/-- Which plane of a sprite a length error is about. -/
inductive SpritePlane where
  | luma
  | chroma
deriving Repr, DecidableEq

/-- The name of a sprite plane in messages. -/
def SpritePlane.name : SpritePlane → String
  | .luma => "luma"
  | .chroma => "chroma"

inductive AssetError where
  /-- No sticker file is listed under this id. -/
  | unknownAsset (id : Nat)
  /-- The file could not be read as an image. -/
  | undecodable (path : String)
  /-- A dimension is below two or odd. -/
  | tooSmall (width height : Nat)
  /-- A plane does not have the length the dimensions demand. -/
  | planeLength (plane : SpritePlane) (expected actual : Nat)
deriving Repr, DecidableEq

namespace AssetError

def message : AssetError → String
  | unknownAsset id => s!"no sticker asset with id {id}"
  | undecodable path => s!"failed to decode {path}"
  | tooSmall w h => s!"sprite must be at least 2x2 after even truncation, got {w}x{h}"
  | planeLength p e a => s!"{p.name} plane has {a} bytes, expected {e}"

end AssetError

/-- Sprite dimensions that whole 2x2 blocks need: both at least two and both even. -/
def SpriteDims (width height : Nat) : Prop :=
  2 ≤ width ∧ 2 ≤ height ∧ width % 2 = 0 ∧ height % 2 = 0

instance (width height : Nat) : Decidable (SpriteDims width height) := by
  unfold SpriteDims; infer_instance

/-- A decoded sticker in column-major 4:2:0 layout. -/
structure Sprite where
  width : Nat
  height : Nat
  luma : Array UInt8
  chroma : Array UInt8
  dims : SpriteDims width height
  luma_size : luma.size = width * height
  chroma_size : chroma.size = width * height / 2

namespace Sprite

/-- Accepts planes as a sprite: dimensions first, then the luma length, then the chroma
length (`w * h / 2`). -/
def ofPlanes? (width height : Nat) (luma chroma : Array UInt8) : Except AssetError Sprite :=
  if hd : SpriteDims width height then
    if hl : luma.size = width * height then
      if hc : chroma.size = width * height / 2 then
        .ok ⟨width, height, luma, chroma, hd, hl, hc⟩
      else .error (.planeLength .chroma (width * height / 2) chroma.size)
    else .error (.planeLength .luma (width * height) luma.size)
  else .error (.tooSmall width height)

/-- The luma plane of a picture function, column by column. -/
def lumaOfFn (width height : Nat) (pixel : Nat → Nat → Yuv) : Array UInt8 :=
  Array.ofFn (n := width * height) fun k => (pixel (k.val / height) (k.val % height)).y

/-- The chroma plane of a picture function: block `(cx, cy)` takes the chroma of pixel
`(2 cx, 2 cy)`, blocks column by column, U before V. -/
def chromaOfFn (width height : Nat) (pixel : Nat → Nat → Yuv) : Array UInt8 :=
  Array.ofFn (n := width / 2 * (height / 2) * 2) fun k =>
    let block := k.val / 2
    let p := pixel (block / (height / 2) * 2) (block % (height / 2) * 2)
    if k.val % 2 = 0 then p.u else p.v

/-- Samples a picture function into a sprite; fails only on unusable dimensions. -/
def ofFn? (width height : Nat) (pixel : Nat → Nat → Yuv) : Except AssetError Sprite :=
  ofPlanes? width height (lumaOfFn width height pixel) (chromaOfFn width height pixel)

def filled? (width height : Nat) (color : Yuv) : Except AssetError Sprite :=
  ofFn? width height fun _ _ => color

variable (s : Sprite)

/-- Luma of pixel `(x, y)`, or `none` outside the sprite. -/
def lumaAt? (x y : Nat) : Option UInt8 :=
  if x < s.width ∧ y < s.height then s.luma[x * s.height + y]? else none

/-- `(U, V)` of chroma block `(cx, cy)`, or `none` outside the sprite. -/
def chromaAt? (cx cy : Nat) : Option (UInt8 × UInt8) :=
  let ch := s.height / 2
  if cx < s.width / 2 ∧ cy < ch then
    let base := (cx * ch + cy) * 2
    match s.chroma[base]?, s.chroma[base + 1]? with
    | some u, some v => some (u, v)
    | _, _ => none
  else none

/-- Frame position of the top-left pixel when the sprite is centred on `(ax, ay)`. -/
def topLeft (ax ay : Int) : Int × Int :=
  (ax - (s.width / 2 : Nat), ay - (s.height / 2 : Nat))

end Sprite

end CameraOverlay
