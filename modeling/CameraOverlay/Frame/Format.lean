/-!
# Pixel formats

The layouts a camera can deliver a preview frame in. Only two-plane NV12 (luma, then
interleaved U and V) is composited; frames in any other layout pass through untouched. Format
names are matched in lower case.
-/

namespace CameraOverlay

inductive PixelFormat where
  | nv12
  | nv21
  | i420
  | yv12
  | yuyv
  | uyvy
  | rgb565
  | rgb888
  | rgba8888
deriving Repr, DecidableEq, Inhabited

namespace PixelFormat

def isSupported : PixelFormat → Bool
  | nv12 => true
  | _ => false

/-- All layouts with their lower-case names. -/
def named : List (String × PixelFormat) :=
  [("nv12", nv12), ("nv21", nv21), ("i420", i420), ("yv12", yv12), ("yuyv", yuyv),
   ("uyvy", uyvy), ("rgb565", rgb565), ("rgb888", rgb888), ("rgba8888", rgba8888)]

def ofName? (name : String) : Option PixelFormat := named.lookup name

/-- The layout's name as it appears in messages. -/
def title : PixelFormat → String
  | nv12 => "Nv12"
  | nv21 => "Nv21"
  | i420 => "I420"
  | yv12 => "Yv12"
  | yuyv => "Yuyv"
  | uyvy => "Uyvy"
  | rgb565 => "Rgb565"
  | rgb888 => "Rgb888"
  | rgba8888 => "Rgba8888"

end PixelFormat

end CameraOverlay
