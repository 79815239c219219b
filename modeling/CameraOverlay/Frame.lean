/-!
# Camera frames in two-plane 4:2:0 layout

A frame holds a luma plane of `width * height` bytes in row-major order and a chroma plane of
`width * height / 2` bytes holding one interleaved `(U, V)` pair per 2x2 block of pixels, blocks
again in row-major order. Both dimensions are positive and even, so every block is whole.

These facts are fields of `Frame`, so every operation that builds a frame has to keep them.
Writing to a frame is `Frame.write` of one `Write` (a plane, an index, a byte); compositing
and drawing are lists of writes, which keeps their effect independent of the bytes they land
on. The index helpers `Shape.lumaIndex?` and `Shape.chromaIndex?` decide which pixel or block
a byte belongs to and refuse every position off the frame.
-/

namespace CameraOverlay

/-- Why two planes, or one byte stream, do not make a frame. -/
inductive FrameError where
  /-- A dimension is zero or odd. -/
  | dimensions (width height : Nat)
  /-- The luma plane does not hold one byte per pixel. -/
  | lumaLength (expected actual : Nat)
  /-- The chroma plane does not hold one pair per 2x2 block. -/
  | chromaLength (expected actual : Nat)
  /-- A byte stream does not hold exactly both planes. -/
  | streamLength (expected actual : Nat)
deriving Repr, DecidableEq

namespace FrameError

def message : FrameError → String
  | dimensions w h => s!"frame dimensions must be non-zero and even, got {w}x{h}"
  | lumaLength e a => s!"luma plane has {a} bytes, expected {e}"
  | chromaLength e a => s!"chroma plane has {a} bytes, expected {e}"
  | streamLength e a => s!"NV12 stream has {a} bytes, expected {e} for both planes"

end FrameError

/-- Dimensions that 4:2:0 subsampling accepts: both positive and both even. -/
def EvenDims (width height : Nat) : Prop :=
  0 < width ∧ 0 < height ∧ width % 2 = 0 ∧ height % 2 = 0

instance (width height : Nat) : Decidable (EvenDims width height) := by
  unfold EvenDims; infer_instance

/-- The width and height of a frame, which is all that decides where a pixel's bytes lie. -/
structure Shape where
  width : Nat
  height : Nat
deriving Repr, DecidableEq

namespace Shape

variable (s : Shape)

/-- Index of pixel `(x, y)` in the luma plane, or `none` off the frame. -/
def lumaIndex? (x y : Int) : Option Nat :=
  if 0 ≤ x ∧ x < s.width ∧ 0 ≤ y ∧ y < s.height then
    some (x + y * s.width).toNat
  else none

/-- Index of the U byte of chroma block `(cx, cy)`, or `none` off the frame; V follows it.
Block coordinates are pixel coordinates halved on both axes. -/
def chromaIndex? (cx cy : Int) : Option Nat :=
  let cw : Int := (s.width / 2 : Nat)
  let ch : Int := (s.height / 2 : Nat)
  if 0 ≤ cx ∧ cx < cw ∧ 0 ≤ cy ∧ cy < ch then
    some ((cx + cy * cw) * 2).toNat
  else none

end Shape

inductive Plane where
  | luma
  | chroma
deriving Repr, DecidableEq

structure Write where
  plane : Plane
  index : Nat
  value : UInt8
deriving Repr, DecidableEq

/-- Rewrites bytes two at a time, the first of each pair by `g0` and the second by `g1`; a last
byte without a partner is left as it is. -/
def mapPairs (g0 g1 : UInt8 → UInt8) : List UInt8 → List UInt8
  | a :: b :: rest => g0 a :: g1 b :: mapPairs g0 g1 rest
  | rest => rest

@[simp] theorem length_mapPairs (g0 g1 : UInt8 → UInt8) (l : List UInt8) :
    (mapPairs g0 g1 l).length = l.length := by
  fun_induction mapPairs g0 g1 l with
  | case1 a b rest ih => simp [ih]
  | case2 rest h => rfl

/-- A camera frame in two-plane 4:2:0 layout, with the plane sizes its dimensions demand. -/
structure Frame where
  width : Nat
  height : Nat
  luma : Array UInt8
  chroma : Array UInt8
  dims : EvenDims width height
  luma_size : luma.size = width * height
  chroma_size : chroma.size = width * height / 2

namespace Frame

/-- Accepts two planes as a frame. The dimensions are checked first, then the length of the luma
plane, then that of the chroma plane; the first failure is the answer. -/
def ofPlanes? (width height : Nat) (luma chroma : Array UInt8) : Except FrameError Frame :=
  if hd : EvenDims width height then
    if hl : luma.size = width * height then
      if hc : chroma.size = width * height / 2 then
        .ok ⟨width, height, luma, chroma, hd, hl, hc⟩
      else .error (.chromaLength (width * height / 2) chroma.size)
    else .error (.lumaLength (width * height) luma.size)
  else .error (.dimensions width height)

variable (f : Frame)

def shape : Shape := ⟨f.width, f.height⟩

/-- Index of pixel `(x, y)` in the luma plane, or `none` off the frame. -/
def lumaIndex? (x y : Int) : Option Nat := f.shape.lumaIndex? x y

/-- Index of the U byte of chroma block `(cx, cy)`, or `none` off the frame. -/
def chromaIndex? (cx cy : Int) : Option Nat := f.shape.chromaIndex? cx cy

def plane : Plane → Array UInt8
  | .luma => f.luma
  | .chroma => f.chroma

/-- Stores one byte. A write past the end of its plane changes nothing. -/
def write (w : Write) : Frame :=
  match w.plane with
  | .luma =>
    { f with
      luma := f.luma.setIfInBounds w.index w.value
      luma_size := by simp [f.luma_size] }
  | .chroma =>
    { f with
      chroma := f.chroma.setIfInBounds w.index w.value
      chroma_size := by simp [f.chroma_size] }

/-- Stores a list of bytes in order; of two writes to one byte the later one stays. -/
def overwrite (ws : List Write) : Frame := ws.foldl write f

/-- Every luma byte becomes `g` of itself, keeping the frame's shape. -/
def mapLuma (g : UInt8 → UInt8) : Frame :=
  { f with luma := f.luma.map g, luma_size := by simp [f.luma_size] }

/-- Every chroma byte becomes `g` of itself, keeping the frame's shape. -/
def mapChroma (g : UInt8 → UInt8) : Frame :=
  { f with chroma := f.chroma.map g, chroma_size := by simp [f.chroma_size] }

theorem size_mapPairs_chroma (g0 g1 : UInt8 → UInt8) :
    (mapPairs g0 g1 f.chroma.toList).toArray.size = f.width * f.height / 2 := by
  simp [f.chroma_size]

/-- The chroma plane rewritten two bytes at a time by `mapPairs`: U bytes by `g0`, V bytes by
`g1`. -/
def mapChromaPairs (g0 g1 : UInt8 → UInt8) : Frame :=
  { f with
    chroma := (mapPairs g0 g1 f.chroma.toList).toArray
    chroma_size := f.size_mapPairs_chroma g0 g1 }

@[simp] theorem write_width (w : Write) : (f.write w).width = f.width := by
  unfold write; split <;> rfl

@[simp] theorem write_height (w : Write) : (f.write w).height = f.height := by
  unfold write; split <;> rfl

@[simp] theorem overwrite_nil : f.overwrite [] = f := rfl

theorem overwrite_cons (w : Write) (ws : List Write) :
    f.overwrite (w :: ws) = (f.write w).overwrite ws := rfl

theorem overwrite_append (ws vs : List Write) :
    f.overwrite (ws ++ vs) = (f.overwrite ws).overwrite vs := by
  simp [overwrite, List.foldl_append]

section Maps

variable (g g0 g1 : UInt8 → UInt8)

@[simp] theorem mapLuma_width : (f.mapLuma g).width = f.width := rfl
@[simp] theorem mapLuma_height : (f.mapLuma g).height = f.height := rfl
@[simp] theorem mapLuma_luma : (f.mapLuma g).luma = f.luma.map g := rfl
@[simp] theorem mapLuma_chroma : (f.mapLuma g).chroma = f.chroma := rfl

@[simp] theorem mapChroma_width : (f.mapChroma g).width = f.width := rfl
@[simp] theorem mapChroma_height : (f.mapChroma g).height = f.height := rfl
@[simp] theorem mapChroma_luma : (f.mapChroma g).luma = f.luma := rfl
@[simp] theorem mapChroma_chroma : (f.mapChroma g).chroma = f.chroma.map g := rfl

@[simp] theorem mapChromaPairs_width : (f.mapChromaPairs g0 g1).width = f.width := rfl
@[simp] theorem mapChromaPairs_height : (f.mapChromaPairs g0 g1).height = f.height := rfl
@[simp] theorem mapChromaPairs_luma : (f.mapChromaPairs g0 g1).luma = f.luma := rfl

end Maps

end Frame

end CameraOverlay
