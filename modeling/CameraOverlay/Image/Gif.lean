import Std.Data.HashMap
import CameraOverlay.Image.Deflate
import CameraOverlay.Image.NeuQuant
/-!
# GIF files of one frame

An 8-bit RGB image is written as a GIF89a file holding one frame:

* the screen descriptor has the image's sides and a global table of two black entries;
* a graphic control extension asks for the frame to be disposed to the background, with no
  delay and no transparent colour;
* the image descriptor covers the whole screen and brings a local colour table, padded with
  black entries to the next power of two (at least two);
* the pixels are colour indices, compressed with variable-length LZW codes.

When the image has at most 256 colours, the table holds exactly those, sorted by red, then
green, then blue, and every pixel is its colour's index. Otherwise a 256-colour table is
learned by `NeuQuant` and each pixel takes its nearest entry there.

The LZW codes start at one bit more than the smallest power of two (at least four) that
covers every index used. The first code clears the table. Each time the longest string in the
table is followed by a byte that does not extend it, its code goes out, the extended string
joins the table, and the codes grow by a bit once the table has more entries than the codes
can name, up to 12 bits; when a 4097th entry would be needed, a clear code follows and the
table starts again. The last string's code, then the end code, end the data; the codes grow
once more before the end code if the table is then exactly full for the current size. The
codes are packed least significant bit first into sub-blocks of at most 255 bytes.
-/

namespace CameraOverlay.Gif

/-- Where the LZW coder stands: the table of strings, keyed by the code of a string without
its last byte and that byte; the next free code; the code size; the code of the string read
so far; and the bits written. -/
structure Lzw where
  table : Std.HashMap (Nat × Nat) Nat
  next : Nat
  size : Nat
  current : Nat
  sink : Deflate.BitSink

/-- Takes in one index. `clear` is the clear code, `2 ^ minSize`. -/
def Lzw.step (minSize clear : Nat) (s : Lzw) (b : Nat) : Lzw :=
  match s.table.get? (s.current, b) with
  | some c => { s with current := c }
  | none =>
    let next := s.next + 1
    let sink := s.sink.write s.current s.size
    let size := if next > (1 <<< s.size) ∧ s.size < 12 then s.size + 1 else s.size
    if next > 4096 then
      ⟨{}, clear + 2, minSize + 1, b, sink.write clear size⟩
    else ⟨s.table.insert (s.current, b) s.next, next, size, b, sink⟩

/-- The LZW codes of some indices, at least one, with the smallest code size `minSize`. -/
def lzw (minSize : Nat) (data : Array Nat) : Array UInt8 :=
  let clear := 1 <<< minSize
  let start : Lzw := ⟨{}, clear + 2, minSize + 1, data.getD 0 0,
    (⟨#[], 0, 0⟩ : Deflate.BitSink).write clear (minSize + 1)⟩
  let s := (data.extract 1 data.size).foldl (Lzw.step minSize clear) start
  let sink := s.sink.write s.current s.size
  let size := if s.next ≥ (1 <<< s.size) ∧ s.size < 12 then s.size + 1 else s.size
  (sink.write (clear + 1) size).finish

/-- Bytes cut into sub-blocks of at most 255 bytes, each after its length, and an empty block
to end them. The fuel bounds the number of blocks. -/
def subBlocks (data : Array UInt8) : Nat → Nat → Array UInt8
  | 0, _ => #[0]
  | fuel + 1, start =>
    if start ≥ data.size then #[0]
    else
      let piece := data.extract start (start + 255)
      #[piece.size.toUInt8] ++ piece ++ subBlocks data fuel (start + 255)

/-- The size field of a colour table of `n` entries: the table holds `2 ^ (field + 1)`
entries, the fewest that are at least `n` (and at least two). -/
def sizeField (n : Nat) : Nat :=
  if n ≤ 2 then 0 else if n ≤ 4 then 1 else if n ≤ 8 then 2 else if n ≤ 16 then 3
  else if n ≤ 32 then 4 else if n ≤ 64 then 5 else if n ≤ 128 then 6 else 7

/-- Removes the repeats of a value from a sorted list. -/
def dedupSorted : List Nat → List Nat
  | a :: b :: rest => if a = b then dedupSorted (b :: rest) else a :: dedupSorted (b :: rest)
  | l => l

/-- A colour as one number: red, green and blue in turn, most significant first. -/
def key (r g b : UInt8) : Nat := r.toNat * 65536 + g.toNat * 256 + b.toNat

/-- The colour table and each pixel's index for `n` packed RGB pixels. -/
def indexed (n : Nat) (px : Array UInt8) : Array UInt8 × Array Nat :=
  let keys := (List.range n).map fun k => key (px.getD (3 * k) 0) (px.getD (3 * k + 1) 0)
    (px.getD (3 * k + 2) 0)
  let colours := dedupSorted (keys.mergeSort (· ≤ ·))
  if colours.length ≤ 256 then
    let slot : Std.HashMap Nat Nat := (colours.zipIdx).foldl (fun m (c, i) => m.insert c i) {}
    let table := colours.toArray.flatMap fun c =>
      #[(c / 65536).toUInt8, (c / 256 % 256).toUInt8, (c % 256).toUInt8]
    (table, keys.toArray.map fun c => slot.getD c 0)
  else
    let net := NeuQuant.learn px
    (net.palette, (List.range n).toArray.map fun k =>
      net.lookup (px.getD (3 * k) 0) (px.getD (3 * k + 1) 0) (px.getD (3 * k + 2) 0))

/-- A 16-bit number, least significant byte first. -/
def le16 (n : Nat) : Array UInt8 := #[n.toUInt8, (n / 256).toUInt8]

/-- The GIF file of a `w × h` image of packed RGB pixels. -/
def encode (w h : Nat) (px : Array UInt8) : Array UInt8 :=
  let (table, indices) := indexed (w * h) px
  let colours := table.size / 3
  let field := sizeField colours
  let padding := Array.replicate (3 * ((1 <<< (field + 1)) - colours)) (0 : UInt8)
  let top := indices.foldl max 0
  let minSize := Nat.log2 (Nat.nextPowerOfTwo (max (top + 1) 4))
  let codes := lzw minSize indices
  "GIF89a".toUTF8.data ++ le16 w ++ le16 h ++ #[0x80, 0, 0, 0, 0, 0, 0, 0, 0] ++
  #[0x21, 0xF9, 4, 8, 0, 0, 0, 0] ++
  #[0x2C] ++ le16 0 ++ le16 0 ++ le16 w ++ le16 h ++ #[(0x80 + field).toUInt8] ++ table ++ padding ++
  #[minSize.toUInt8] ++ subBlocks codes (codes.size / 255 + 1) 0 ++ #[0x3B]

end CameraOverlay.Gif
