/-!
# Baseline TIFF, uncompressed

An 8-bit RGB image is written as a little-endian TIFF file with one image directory:

* the header `II*\0` and the offset of the directory;
* the X and Y resolutions, each the rational `1/1`, at offsets 8 and 16;
* the pixel rows from offset 24, in strips of as many rows as keep a strip within 1000000
  bytes (rounding up);
* the bits per sample `8, 8, 8` and the sample formats `1, 1, 1` (unsigned), then, when there
  is more than one strip, the strips' offsets and their byte counts;
* the directory: its 14 entries sorted by tag, each a tag, a type, a count and either the value
  (when it fits in four bytes) or its offset, and a zero for "no next directory".

The entries are the width and height, bits per sample, no compression, RGB photometric
interpretation, strip offsets, three samples per pixel, rows per strip, strip byte counts, the
two resolutions with no resolution unit, no predictor, and the sample formats.
-/

namespace CameraOverlay.Tiff

/-- A 16-bit number, least significant byte first. -/
def le16 (n : Nat) : Array UInt8 := #[n.toUInt8, (n / 256).toUInt8]

/-- A 32-bit number, least significant byte first. -/
def le32 (n : Nat) : Array UInt8 :=
  #[n.toUInt8, (n / 256).toUInt8, (n / 65536).toUInt8, (n / 16777216).toUInt8]

/-- The field types used: 16-bit, 32-bit, and a pair of 32-bit numbers. -/
inductive FieldType where
  | short
  | long
  | rational

/-- The number that names a field type in an entry. -/
def FieldType.code : FieldType → Nat
  | .short => 3
  | .long => 4
  | .rational => 5

/-- A directory entry: its tag, type, count, and the value or offset as four bytes. -/
structure Entry where
  tag : Nat
  type : FieldType
  count : Nat
  value : Array UInt8

/-- An entry's twelve bytes. -/
def Entry.bytes (e : Entry) : Array UInt8 :=
  le16 e.tag ++ le16 e.type.code ++ le32 e.count ++ e.value

/-- An entry of one 16-bit value. -/
def short (tag v : Nat) : Entry := ⟨tag, .short, 1, le16 v ++ #[0, 0]⟩

/-- An entry of one 32-bit value. -/
def long (tag v : Nat) : Entry := ⟨tag, .long, 1, le32 v⟩

/-- The TIFF file of a `w × h` image of packed RGB pixels. -/
def encode (w h : Nat) (px : Array UInt8) : Array UInt8 :=
  let rowBytes := 3 * w
  let rowsPerStrip := (1000000 + rowBytes - 1) / rowBytes
  let strips := (h + rowsPerStrip - 1) / rowsPerStrip
  let stripRows (k : Nat) : Nat := min h ((k + 1) * rowsPerStrip) - k * rowsPerStrip
  let counts := (List.range strips).map fun k => stripRows k * rowBytes
  let offsets := (List.range strips).map fun k => 24 + k * rowsPerStrip * rowBytes
  let dataEnd := 24 + h * rowBytes
  let bitsAt := dataEnd
  let formatsAt := dataEnd + 6
  let offsetsAt := dataEnd + 12
  let countsAt := offsetsAt + 4 * strips
  let tail : Array UInt8 :=
    le16 8 ++ le16 8 ++ le16 8 ++ le16 1 ++ le16 1 ++ le16 1 ++
    (if strips > 1 then
      (offsets.foldl (fun a o => a ++ le32 o) #[]) ++ counts.foldl (fun a c => a ++ le32 c) #[]
    else #[])
  let directoryAt := dataEnd + tail.size
  let stripsEntry (tag : Nat) (one : Nat) (at_ : Nat) : Entry :=
    if strips > 1 then ⟨tag, .long, strips, le32 at_⟩ else ⟨tag, .long, 1, le32 one⟩
  let entries : List Entry := [
    long 256 w, long 257 h, ⟨258, .short, 3, le32 bitsAt⟩, short 259 1, short 262 2,
    stripsEntry 273 24 offsetsAt, short 277 3, long 278 rowsPerStrip,
    stripsEntry 279 (h * rowBytes) (if strips > 1 then countsAt else 0),
    ⟨282, .rational, 1, le32 8⟩, ⟨283, .rational, 1, le32 16⟩, short 296 1, short 317 1,
    ⟨339, .short, 3, le32 formatsAt⟩]
  #[0x49, 0x49, 0x2A, 0x00] ++ le32 directoryAt ++ le32 1 ++ le32 1 ++ le32 1 ++ le32 1 ++
    px.extract 0 (h * rowBytes) ++ tail ++ le16 entries.length ++
    entries.foldl (fun a e => a ++ e.bytes) #[] ++ le32 0

end CameraOverlay.Tiff
