import CameraOverlay.Sprite
import CameraOverlay.Path
/-!
# The sticker image store

Sticker images are decoded once, slot by slot in the order of a file list, from files in one
directory. A slot whose file could not be decoded stays empty, and compositing skips it. The
decoder is a parameter, run in any monad, so that the store can be loaded from a real file
system, from a table of files, or by a decoder that records what it was asked for.
-/

namespace CameraOverlay

/-- Decoded sticker images by asset id; an empty slot failed to decode. -/
structure AssetStore where
  slots : List (Option Sprite)

namespace AssetStore

def empty : AssetStore := ⟨[]⟩

variable (a : AssetStore)

/-- The image in slot `id`, if it decoded. -/
def get? (id : Nat) : Option Sprite := (a.slots[id]?).join

def size : Nat := a.slots.length

def isEmpty : Bool := a.slots.isEmpty

/-- The number of slots that decoded. -/
def available : Nat := (a.slots.filter Option.isSome).length

/-- Decodes asset `id`: the file of that position in `files`, under `dir`. -/
def loadAsset [Monad m] (decode : String → m (Except AssetError Sprite)) (dir : String)
    (files : List String) (id : Nat) : m (Except AssetError Sprite) :=
  match files[id]? with
  | some name => decode (Path.join dir name)
  | none => pure (.error (.unknownAsset id))

/-- Decodes every file of the list, in order, into one slot each. -/
def load [Monad m] (decode : String → m (Except AssetError Sprite)) (dir : String)
    (files : List String) : m AssetStore := do
  let slots ← (List.range files.length).mapM fun id => do
    return (← loadAsset decode dir files id).toOption
  return ⟨slots⟩

end AssetStore

end CameraOverlay
