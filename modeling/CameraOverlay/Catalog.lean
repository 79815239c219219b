import CameraOverlay.Composite.Key
import CameraOverlay.Face.Basic
/-!
# The sticker catalog

Stickers are numbered from `1`; id `0` is no sticker. Each sticker is either a list of sprite
placements composited with one key, each placement naming a sticker image, the landmark it is
centred on and an offset in landmark coordinates, or the landmark markers used for debugging.
Sticker images are numbered by their position in `assetFiles`.
-/

namespace CameraOverlay

/-- The sticker image files, numbered from `0`. -/
def assetFiles : List String :=
  ["nyan.png", "rudolph.png", "santa.png", "mustache.png", "ear_left.png", "ear_right.png"]

/-- One sprite of a sticker: which image, centred on which landmark, moved by how much. -/
structure Placement where
  asset : Nat
  landmark : Nat
  dx : Int32
  dy : Int32
deriving Repr, DecidableEq

inductive Drawing where
  | sprites (placements : List Placement) (key : Key)
  | landmarkMarkers
deriving Repr, DecidableEq

structure StickerSpec where
  name : String
  drawing : Drawing
deriving Repr, DecidableEq

namespace StickerSpec

/-- The six catalog stickers, in id order from `1`. -/
def table : List StickerSpec :=
  [⟨"nyan", .sprites [⟨0, Landmarks.noseTip, 0, 0⟩] Key.copy⟩,
   ⟨"rudolph", .sprites [⟨1, Landmarks.noseTip, 0, 0⟩] Key.standard⟩,
   ⟨"santa", .sprites [⟨2, Landmarks.noseBridge, 0, -24⟩] Key.standard⟩,
   ⟨"mustache", .sprites [⟨3, Landmarks.upperLipTop, 0, -3⟩] Key.plain⟩,
   ⟨"ears", .sprites [⟨4, Landmarks.leftBrowInner, 0, -18⟩, ⟨5, Landmarks.rightBrowInner, 0, -18⟩]
      Key.plain⟩,
   ⟨"landmarks", .landmarkMarkers⟩]

/-- Number of sticker ids, counting `0` for no sticker. -/
def slots : Nat := table.length + 1

/-- The sticker with this id; ids start at `1`. -/
def byId? (id : Nat) : Option StickerSpec :=
  if id = 0 then none else table[id - 1]?

end StickerSpec

end CameraOverlay
