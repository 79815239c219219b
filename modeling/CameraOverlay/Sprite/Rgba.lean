import CameraOverlay.Sprite
/-!
# Sprites from RGBA images

A sticker image arrives as rows of RGBA pixels. Its dimensions are first cut down to even
numbers, so that every chroma block is whole, and each remaining pixel becomes YUV: a pixel whose
alpha is below one half becomes `keyedBackground`, white with neutral chroma, which both keying
rules treat as background; every other pixel is converted with `Color.rgbToYuv`. Pixels are
still read with the image's own row length, so cutting a column off does not shift the rows.
-/

namespace CameraOverlay

/-- An image as rows of RGBA pixels, four bytes per pixel. -/
structure RgbaImage where
  width : Nat
  height : Nat
  pixels : Array UInt8
  pixels_size : pixels.size = width * height * 4

namespace RgbaImage

/-- Alpha below this makes a pixel transparent. -/
def alphaCutoff : UInt8 := 128

/-- What a transparent pixel becomes: white with neutral chroma. -/
def keyedBackground : Yuv := ⟨255, neutralChroma, neutralChroma⟩

variable (img : RgbaImage)

/-- Channel `c` of pixel `(x, y)`, rows of `width` pixels. -/
def channel (x y c : Nat) : UInt8 := img.pixels.getD ((y * img.width + x) * 4 + c) 0

/-- Pixel `(x, y)` as a sprite sees it. -/
def yuvAt (x y : Nat) : Yuv :=
  if img.channel x y 3 < alphaCutoff then keyedBackground
  else Color.rgbToYuv (img.channel x y 0) (img.channel x y 1) (img.channel x y 2)

/-- A dimension cut down to an even number. -/
def evenPart (n : Nat) : Nat := n - n % 2

/-- The sprite of an image: even dimensions, transparent pixels keyed white. -/
def toSprite? : Except AssetError Sprite :=
  Sprite.ofFn? (evenPart img.width) (evenPart img.height) img.yuvAt

end RgbaImage

end CameraOverlay
