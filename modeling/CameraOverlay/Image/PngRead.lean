import CameraOverlay.Image.Png
import CameraOverlay.Image.Inflate
import CameraOverlay.Sprite.Rgba
/-!
# Reading PNG images

Reads a PNG file into 8-bit RGBA pixels, the way a streaming reader does: chunks are taken in
order up to the end of the image data. The header comes first and once. After it, a chunk whose
CRC is wrong is an error if it is critical (its type starts with a capital letter) and is
skipped otherwise. A palette may come once, with `3` to `768` bytes (whole entries of three are
used), whatever the colour type; a palette image needs one before the image data. The first
transparency chunk of at most `256` bytes that fits the colour type is kept (two bytes or more
for grey, six or more for colour, any length after the palette for a palette image) and later
ones are ignored. A 16-bit grey level or colour is listed only by a chunk of exactly two or six
bytes, and a palette image's transparency with more entries than the palette counts as none.
A frame control chunk before the image data describes the image itself: it must be whole,
numbered `0` (then `1`, ...), cover the image at offset zero, and name a known disposal and
blending. Other chunks are skipped.

The image data is the first run of consecutive `IDAT` chunks, each whole and with a right CRC,
and the file must go on at least to the length and type of the chunk after them. The data is
inflated only as far as the image needs (see `Inflate.unzlibPieces`). Each row is reconstructed
from its filter (none, sub, up, average or Paeth), and interlaced images are put together from
their seven passes. Every colour type and bit depth is converted: grey levels of fewer than 8
bits are scaled to 8 bits, 16-bit samples are rounded to 8 bits, palette indices are looked up
(an index past the palette is opaque black), and the transparency chunk makes the listed
palette entries or the listed colour transparent. Below 16 bits a listed colour is compared by
the low byte of each of its samples. A pixel without alpha is opaque.
-/

namespace CameraOverlay.Png

/-- A 32-bit big-endian number at an offset. -/
def be32At (d : Array UInt8) (i : Nat) : Nat :=
  ((d.getD i 0).toNat <<< 24) + ((d.getD (i + 1) 0).toNat <<< 16) +
    ((d.getD (i + 2) 0).toNat <<< 8) + (d.getD (i + 3) 0).toNat

structure Header where
  width : Nat
  height : Nat
  bitDepth : Nat
  colorType : Nat
  interlaced : Bool

/-- The number of samples per pixel of a colour type. -/
def channels : Nat → Nat
  | 0 => 1
  | 2 => 3
  | 3 => 1
  | 4 => 2
  | 6 => 4
  | _ => 0

/-- Whether a colour type allows a bit depth. -/
def validDepth (colorType depth : Nat) : Bool :=
  match colorType with
  | 0 => depth ∈ [1, 2, 4, 8, 16]
  | 3 => depth ∈ [1, 2, 4, 8]
  | 2 | 4 | 6 => depth ∈ [8, 16]
  | _ => false

def Header.ofChunk (d : Array UInt8) : Except String Header :=
  if d.size ≠ 13 then .error "invalid IHDR chunk"
  else
    let h : Header := ⟨be32At d 0, be32At d 4, (d.getD 8 0).toNat, (d.getD 9 0).toNat,
      d.getD 12 0 == 1⟩
    if h.width = 0 ∨ h.height = 0 then .error "image has no pixels"
    else if !validDepth h.colorType h.bitDepth then .error "invalid colour type or bit depth"
    else if d.getD 10 0 ≠ 0 then .error "unknown compression method"
    else if d.getD 11 0 ≠ 0 then .error "unknown filter method"
    else if d.getD 12 0 > 1 then .error "unknown interlace method"
    else .ok h

/-- A chunk of a PNG file: its type, its data, and whether its CRC is right. -/
structure Chunk where
  kind : String
  data : Array UInt8
  crcOk : Bool

/-- The chunk at offset `i`, if the file holds all of it, and the offset after it. -/
def chunkAt (d : Array UInt8) (i : Nat) : Option (Chunk × Nat) :=
  let len := be32At d i
  if i + 12 + len > d.size then none
  else
    let kind := String.ofList ((d.extract (i + 4) (i + 8)).toList.map fun b => Char.ofNat b.toNat)
    let crcOk := (crc32 (d.extract (i + 4) (i + 8 + len))).toNat == be32At d (i + 8 + len)
    some (⟨kind, d.extract (i + 8) (i + 8 + len), crcOk⟩, i + 12 + len)

/-- The type of a chunk at offset `i`, if the file holds its length and type. -/
def kindAt (d : Array UInt8) (i : Nat) : Option String :=
  if i + 8 > d.size then none
  else some (String.ofList ((d.extract (i + 4) (i + 8)).toList.map fun b => Char.ofNat b.toNat))

/-- Whether a chunk is critical: its type starts with a capital letter. -/
def isCritical (kind : String) : Bool := kind.front.isUpper

/-- What the chunks before the image data say. -/
structure Layout where
  header : Option Header
  palette : Option (Array UInt8)
  transparency : Option (Array UInt8)
  /-- The number of the last frame control chunk. -/
  frame : Option Nat

/-- Takes in a transparency chunk: kept if it is the first and fits the colour type. -/
def Layout.addTransparency (l : Layout) (h : Header) (t : Array UInt8) : Layout :=
  let fits : Bool := match h.colorType with
    | 0 => decide (2 ≤ t.size)
    | 2 => decide (6 ≤ t.size)
    | 3 => l.palette.isSome
    | _ => false
  if l.transparency.isNone && fits && decide (t.size ≤ 256) then { l with transparency := some t }
  else l

/-- Takes in a frame control chunk before the image data: sequence number, width, height,
offsets, delay, disposal and blending. -/
def Layout.addFrame (l : Layout) (h : Header) (d : Array UInt8) : Except String Layout :=
  let number := be32At d 0
  if d.size < 26 then .error "fcTL chunk too short"
  else if number ≠ (l.frame.map (· + 1)).getD 0 then .error "fcTL chunk out of order"
  else if d.getD 24 0 > 2 ∨ d.getD 25 0 > 1 then .error "invalid disposal or blending"
  else if be32At d 4 ≠ h.width ∨ be32At d 8 ≠ h.height ∨ be32At d 12 ≠ 0 ∨ be32At d 16 ≠ 0 then
    .error "first frame does not cover the image"
  else .ok { l with frame := some number }

/-- Takes in a chunk before the image data. -/
def Layout.add (l : Layout) (c : Chunk) : Except String Layout :=
  match l.header with
  | none =>
    if c.kind ≠ "IHDR" then .error "first chunk is not IHDR"
    else if !c.crcOk then .error "CRC error in chunk IHDR"
    else do return { l with header := some (← Header.ofChunk c.data) }
  | some h =>
    if !c.crcOk then
      if isCritical c.kind then .error ("CRC error in chunk " ++ c.kind) else .ok l
    else if c.kind = "IHDR" then .error "second IHDR chunk"
    else if c.kind = "PLTE" then
      if l.palette.isSome then .error "second PLTE chunk"
      else if c.data.size < 3 ∨ c.data.size > 768 then .error "invalid palette length"
      else .ok { l with palette := some c.data }
    else if c.kind = "tRNS" then .ok (l.addTransparency h c.data)
    else if c.kind = "fcTL" then l.addFrame h c.data
    else .ok l

/-- Reads the chunks from offset `i` up to the image data: answers what they say and the offset
of the first `IDAT` chunk. -/
def layoutFrom (d : Array UInt8) : Nat → Nat → Layout → Except String (Layout × Nat)
  | 0, _, _ => .error "no image data"
  | fuel + 1, i, l =>
    match chunkAt d i with
    | none => .error "unexpected end of file"
    | some (c, next) =>
      if l.header.isSome ∧ c.kind = "IDAT" then .ok (l, i)
      else if l.header.isSome ∧ c.kind = "IEND" ∧ c.crcOk then .error "no image data"
      else do layoutFrom d fuel next (← l.add c)

/-- The image data: the data of each chunk of the run of `IDAT` chunks from offset `i`. The run
ends at the first chunk of another type, whose length and type the file must hold. -/
def imageData (d : Array UInt8) : Nat → Nat → List (Array UInt8) →
    Except String (List (Array UInt8))
  | 0, _, acc => .ok acc
  | fuel + 1, i, acc =>
    match kindAt d i with
    | none => .error "unexpected end of file"
    | some k =>
      if k ≠ "IDAT" then .ok acc
      else
        match chunkAt d i with
        | none => .error "unexpected end of file"
        | some (c, next) =>
          if !c.crcOk then .error "CRC error in chunk IDAT"
          else imageData d fuel next (acc ++ [c.data])

/-- The Paeth predictor: of left, above and upper left, the one closest to their linear
estimate `left + above - upper left`. -/
def paeth (a b c : Nat) : Nat :=
  let p : Int := a + b - c
  let pa := (p - a).natAbs
  let pb := (p - b).natAbs
  let pc := (p - c).natAbs
  if pa ≤ pb ∧ pa ≤ pc then a else if pb ≤ pc then b else c

/-- Reconstructs one row from its filter type, the bytes per pixel and the row above. -/
def unfilterRow (kind : Nat) (bpp : Nat) (prev cur : Array UInt8) : Except String (Array UInt8) :=
  if kind > 4 then .error "invalid filter type"
  else
    .ok <| (List.range cur.size).foldl (fun out i =>
      let x := (cur.getD i 0).toNat
      let a := if i ≥ bpp then (out.getD (i - bpp) 0).toNat else 0
      let b := (prev.getD i 0).toNat
      let c := if i ≥ bpp then (prev.getD (i - bpp) 0).toNat else 0
      let pred := match kind with
        | 1 => a
        | 2 => b
        | 3 => (a + b) / 2
        | 4 => paeth a b c
        | _ => 0
      out.push (x + pred).toUInt8) #[]

/-- Reconstructs the `rows` rows of `rowBytes` bytes starting at `offset`; answers the rows and
the offset after them. -/
def unfilterRows (data : Array UInt8) (rowBytes bpp : Nat) :
    Nat → Nat → Array UInt8 → Array (Array UInt8) → Except String (Array (Array UInt8) × Nat)
  | 0, offset, _, acc => .ok (acc, offset)
  | rows + 1, offset, prev, acc => do
    if offset + 1 + rowBytes > data.size then throw "image data too short"
    let row ← unfilterRow (data.getD offset 0).toNat bpp prev
      (data.extract (offset + 1) (offset + 1 + rowBytes))
    unfilterRows data rowBytes bpp rows (offset + 1 + rowBytes) row (acc.push row)

/-- A pass of an interlaced image: first column and row, and the steps between them. -/
structure Pass where
  x0 : Nat
  y0 : Nat
  dx : Nat
  dy : Nat

def adam7 : List Pass :=
  [⟨0, 0, 8, 8⟩, ⟨4, 0, 8, 8⟩, ⟨0, 4, 4, 8⟩, ⟨2, 0, 4, 4⟩, ⟨0, 2, 2, 4⟩, ⟨1, 0, 2, 2⟩, ⟨0, 1, 1, 2⟩]

/-- The number of positions `start, start + step, ...` below `n`. -/
def along (n start step : Nat) : Nat := if n > start then (n - start + step - 1) / step else 0

/-- The raw sample `k` of the pixel at column `x` of a reconstructed row. -/
def sample (depth chans : Nat) (row : Array UInt8) (x k : Nat) : Nat :=
  if depth = 8 then (row.getD (x * chans + k) 0).toNat
  else if depth = 16 then
    (row.getD ((x * chans + k) * 2) 0).toNat * 256 + (row.getD ((x * chans + k) * 2 + 1) 0).toNat
  else
    let bit := (x * chans + k) * depth
    ((row.getD (bit / 8) 0).toNat >>> (8 - depth - bit % 8)) % Nat.pow 2 depth

/-- A sample as 8 bits: low depths are scaled up, 16 bits rounded down to 8. -/
def to8 (depth v : Nat) : Nat :=
  if depth = 16 then (v + 128) / 257 else if depth < 8 then v * (255 / (Nat.pow 2 depth - 1)) else v

/-- Sample `i` of the colour a transparency chunk lists: two bytes at 16 bits, and only the low
byte below. -/
def transparentSample (depth : Nat) (t : Array UInt8) (i : Nat) : Nat :=
  if depth = 16 then (t.getD (2 * i) 0).toNat * 256 + (t.getD (2 * i + 1) 0).toNat
  else (t.getD (2 * i + 1) 0).toNat

/-- The RGBA bytes of a pixel from its raw samples. -/
def rgbaOf (h : Header) (palette : Array UInt8) (trns : Option (Array UInt8)) (s : List Nat) :
    List UInt8 :=
  let d := h.bitDepth
  let c (v : Nat) : UInt8 := (to8 d v).toUInt8
  let listed (vs : List Nat) : Bool := match trns with
    | some t => (d < 16 || t.size = 2 * vs.length) &&
        vs == (List.range vs.length).map (transparentSample d t)
    | none => false
  match h.colorType, s with
  | 0, [g] =>
    let a : UInt8 := if listed [g] then 0 else 255
    [c g, c g, c g, a]
  | 2, [r, g, b] =>
    let a : UInt8 := if listed [r, g, b] then 0 else 255
    [c r, c g, c b, a]
  | 3, [i] =>
    let alphas := (trns.filter (·.size ≤ palette.size / 3)).getD #[]
    [palette.getD (3 * i) 0, palette.getD (3 * i + 1) 0, palette.getD (3 * i + 2) 0,
      alphas.getD i 255]
  | 4, [g, a] => [c g, c g, c g, c a]
  | 6, [r, g, b, a] => [c r, c g, c b, c a]
  | _, _ => [0, 0, 0, 255]

/-- The number of bytes of filtered image data: for each pass, one filter byte and the packed
samples per row. -/
def dataSize (h : Header) (passes : List Pass) : Nat :=
  let bitsPerPixel := channels h.colorType * h.bitDepth
  passes.foldl (fun acc p =>
    let w := along h.width p.x0 p.dx
    let rows := along h.height p.y0 p.dy
    if w = 0 ∨ rows = 0 then acc else acc + rows * (1 + (w * bitsPerPixel + 7) / 8)) 0

def decode (file : Array UInt8) : Except String RgbaImage := do
  if file.extract 0 8 != signature then throw "not a PNG file"
  let (layout, start) ← layoutFrom file (file.size + 1) 8 ⟨none, none, none, none⟩
  let h ← match layout.header with
    | some h => pure h
    | none => throw "first chunk is not IHDR"
  if h.colorType = 3 ∧ layout.palette.isNone then throw "missing PLTE chunk"
  let idat ← imageData file (file.size + 1) start []
  let chans := channels h.colorType
  let bitsPerPixel := chans * h.bitDepth
  let bpp := max 1 (bitsPerPixel / 8)
  let passes := if h.interlaced then adam7 else [⟨0, 0, 1, 1⟩]
  let need := dataSize h passes
  let data ← Inflate.unzlibPieces need idat
  if data.size < need then throw "image data too short"
  let (decoded, _) ← passes.foldlM (fun (acc : List (Pass × Array (Array UInt8)) × Nat) p => do
      let w := along h.width p.x0 p.dx
      let rows := along h.height p.y0 p.dy
      if w = 0 ∨ rows = 0 then return (acc.1 ++ [(p, #[])], acc.2)
      let (rs, next) ← unfilterRows data ((w * bitsPerPixel + 7) / 8) bpp rows acc.2 #[] #[]
      return (acc.1 ++ [(p, rs)], next)) ([], 0)
  let palette := layout.palette.getD #[]
  let pixel (x y : Nat) : List UInt8 :=
    match decoded.find? fun (p, _) => x ≥ p.x0 ∧ (x - p.x0) % p.dx = 0 ∧ y ≥ p.y0 ∧
        (y - p.y0) % p.dy = 0 with
    | some (p, rs) =>
      let row := rs.getD ((y - p.y0) / p.dy) #[]
      rgbaOf h palette layout.transparency
        ((List.range chans).map (sample h.bitDepth chans row ((x - p.x0) / p.dx)))
    | none => [0, 0, 0, 255]
  let pixels := (List.range (h.width * h.height)).foldl
    (fun acc k => acc ++ (pixel (k % h.width) (k / h.width)).toArray) #[]
  if hs : pixels.size = h.width * h.height * 4 then return ⟨h.width, h.height, pixels, hs⟩
  else throw "image data too short"

end CameraOverlay.Png
