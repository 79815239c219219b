import CameraOverlay.Image.Deflate
/-!
# Writing PNG images

A PNG file is a signature and a list of chunks: a header (`IHDR`) with the size, bit depth and
colour type, the image data (`IDAT`), and an end marker (`IEND`); every chunk carries a CRC-32 of
its type and data. The image data is a zlib stream of the rows, each row preceded by its filter
type.

Each row is filtered adaptively: of the filters Sub, Up, Average and Paeth, tried in this order,
the row takes the one whose output has the least sum of magnitudes (bytes read as signed), the
later of equal ones, and the first whose sum is zero stops the search. The filtered rows are
compressed with `Deflate.fixedCodes`; when that is longer than storing them, the rows are
stored instead, each with filter type `0` (none).
-/

namespace CameraOverlay.Png

/-- One byte into a CRC-32 register (reflected polynomial `0xEDB88320`). -/
def crcStep (c : UInt32) (b : UInt8) : UInt32 :=
  (List.range 8).foldl
    (fun (c : UInt32) _ => if c &&& 1 == 1 then (0xEDB88320 : UInt32) ^^^ (c >>> 1) else c >>> 1)
    (c ^^^ b.toUInt32)

def crc32 (bytes : Array UInt8) : UInt32 := bytes.foldl crcStep 0xFFFFFFFF ^^^ 0xFFFFFFFF

/-- A chunk: length, type, data and the CRC of type and data. -/
def chunk (kind : String) (data : Array UInt8) : Array UInt8 :=
  let typed := kind.toUTF8.data ++ data
  Deflate.be32 data.size.toUInt32 ++ typed ++ Deflate.be32 (crc32 typed)

/-- The row filters: the byte each predicts from the byte `a` to its left, `b` above it and `c`
above-left. -/
inductive RowFilter where
  | none
  | sub
  | up
  | average
  | paeth
deriving DecidableEq, Repr

namespace RowFilter

def code : RowFilter → UInt8
  | none => 0
  | sub => 1
  | up => 2
  | average => 3
  | paeth => 4

/-- The Paeth predictor: of `a`, `b` and `c`, the one nearest to `a + b - c`, preferring `a`,
then `b`. -/
def paethPredictor (a b c : Nat) : Nat :=
  let p : Int := a + b - c
  let pa := (p - a).natAbs
  let pb := (p - b).natAbs
  let pc := (p - c).natAbs
  if pa ≤ pb ∧ pa ≤ pc then a else if pb ≤ pc then b else c

/-- The byte a filter predicts. -/
def predict (f : RowFilter) (a b c : Nat) : Nat :=
  match f with
  | none => 0
  | sub => a
  | up => b
  | average => (a + b) / 2
  | paeth => paethPredictor a b c

/-- A row filtered against the row above it, with `bpp` bytes per pixel. -/
def apply (f : RowFilter) (bpp : Nat) (prev cur : Array UInt8) : Array UInt8 :=
  (List.range cur.size).foldl (fun out x =>
    let left (r : Array UInt8) : Nat := if x ≥ bpp then (r.getD (x - bpp) 0).toNat else 0
    let p := f.predict (left cur) (prev.getD x 0).toNat (left prev)
    out.push (cur.getD x 0 - p.toUInt8)) #[]

end RowFilter

/-- The size of a filtered row as the adaptive choice measures it: the sum of its bytes read
as signed numbers, without sign. -/
def rowCost (row : Array UInt8) : Nat :=
  row.foldl (fun acc b => acc + if b < 128 then b.toNat else 256 - b.toNat) 0

/-- The filter the adaptive choice takes for a row, and the filtered row. -/
def chooseFilter (bpp : Nat) (prev cur : Array UInt8) : RowFilter × Array UInt8 :=
  let first := RowFilter.sub.apply bpp prev cur
  let (best, _, _) := [RowFilter.up, RowFilter.average, RowFilter.paeth].foldl
    (fun (best, least, stopped) f =>
      if stopped then (best, least, stopped)
      else
        let out := f.apply bpp prev cur
        let cost := rowCost out
        (if cost ≤ least then (f, out) else best, min cost least, cost == 0))
    ((RowFilter.sub, first), rowCost first, rowCost first == 0)
  best

/-- The rows of an image, each preceded by its adaptively chosen filter type. -/
def filteredRows (bpp : Nat) (rows : List (Array UInt8)) : List (Array UInt8) :=
  let (out, _) := rows.foldl (fun (out, prev) row =>
    let (f, filtered) := chooseFilter bpp prev row
    (out ++ [#[f.code] ++ filtered], row)) ([], Array.replicate (rows.headD #[]).size 0)
  out

def signature : Array UInt8 := #[0x89, 0x50, 0x4E, 0x47, 0x0D, 0x0A, 0x1A, 0x0A]

/-- A PNG file of 8-bit samples: `channels` is `3` for RGB or `4` for RGBA. -/
def encode (width height channels : Nat) (pixels : Array UInt8) : Array UInt8 :=
  let colorType : UInt8 := if channels = 4 then 6 else 2
  let header := Deflate.be32 width.toUInt32 ++ Deflate.be32 height.toUInt32 ++
    #[8, colorType, 0, 0, 0]
  let rowBytes := width * channels
  let rows := (List.range height).map fun y => pixels.extract (y * rowBytes) ((y + 1) * rowBytes)
  let data := Deflate.compressRows (filteredRows channels rows) (rows.map (#[0] ++ ·))
  signature ++ chunk "IHDR" header ++ chunk "IDAT" data ++ chunk "IEND" #[]

end CameraOverlay.Png
