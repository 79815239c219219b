/-!
# Baseline JPEG at quality 75

An 8-bit RGB image is written as a baseline JPEG file of three components, none of them
subsampled:

* the markers in order: start of image, a JFIF header (version 1.2, no density unit, a density
  of 1 × 1, no thumbnail), the frame header, the two quantization tables, the four standard
  Huffman tables (luma DC, luma AC, chroma DC, chroma AC), the scan header, the entropy-coded
  scan, and end of image;
* each pixel turns into Y, Cb and Cr by fixed-point arithmetic with 16 fraction bits;
* the image is cut into 8 × 8 blocks in raster order, the last row and column of pixels repeated
  to fill blocks past the edge, and each block gives a Y, a Cb and a Cr block in turn;
* a block goes through the slow integer DCT (13 constant bits, 2 extra bits between the passes),
  its coefficients are divided by 8 toward zero and then by the quantizer, rounding halves away
  from zero;
* the coefficients are coded in zigzag order with the standard Huffman tables: the DC term as a
  difference from the same component's previous block, the AC terms as runs of zeros (a run of
  16 as its own symbol) each ending in a nonzero term, and an end-of-block symbol unless the
  last term is nonzero.

The quantizers are the standard tables scaled to quality 75: every entry halved, rounding
halves up, and kept within `1 ... 255`. The scan's bits go out most significant first, a zero
byte after every `0xFF`, and the last byte is filled with one bits.
-/

namespace CameraOverlay.Jpeg

/-- The row-major position of each of the 64 coefficients of a block in zigzag order. -/
def zigzag : Array Nat := #[
  0, 1, 8, 16, 9, 2, 3, 10, 17, 24, 32, 25, 18, 11, 4, 5, 12, 19, 26, 33, 40, 48, 41, 34, 27, 20,
  13, 6, 7, 14, 21, 28, 35, 42, 49, 56, 57, 50, 43, 36, 29, 22, 15, 23, 30, 37, 44, 51, 58, 59,
  52, 45, 38, 31, 39, 46, 53, 60, 61, 54, 47, 55, 62, 63]

/-- The standard luminance quantization table, row-major. -/
def lumaTable : Array Nat := #[
  16, 11, 10, 16, 24, 40, 51, 61, 12, 12, 14, 19, 26, 58, 60, 55, 14, 13, 16, 24, 40, 57, 69, 56,
  14, 17, 22, 29, 51, 87, 80, 62, 18, 22, 37, 56, 68, 109, 103, 77, 24, 35, 55, 64, 81, 104, 113,
  92, 49, 64, 78, 87, 103, 121, 120, 101, 72, 92, 95, 98, 112, 100, 103, 99]

/-- The standard chrominance quantization table, row-major. -/
def chromaTable : Array Nat := #[
  17, 18, 24, 47, 99, 99, 99, 99, 18, 21, 26, 66, 99, 99, 99, 99, 24, 26, 56, 99, 99, 99, 99, 99,
  47, 66, 99, 99, 99, 99, 99, 99, 99, 99, 99, 99, 99, 99, 99, 99, 99, 99, 99, 99, 99, 99, 99, 99,
  99, 99, 99, 99, 99, 99, 99, 99, 99, 99, 99, 99, 99, 99, 99, 99]

/-- A table scaled to quality 75: each entry times 50/100, rounding halves up, within
`1 ... 255`. -/
def scaled (t : Array Nat) : Array Nat := t.map fun v => min 255 (max 1 ((v * 50 + 50) / 100))

/-- A standard Huffman table: how many codes there are of each length `1 ... 16`, and the
symbols in code order. -/
structure HuffmanTable where
  counts : Array Nat
  symbols : Array Nat

def lumaDc : HuffmanTable :=
  ⟨#[0, 1, 5, 1, 1, 1, 1, 1, 1, 0, 0, 0, 0, 0, 0, 0], (List.range 12).toArray⟩

def chromaDc : HuffmanTable :=
  ⟨#[0, 3, 1, 1, 1, 1, 1, 1, 1, 1, 1, 0, 0, 0, 0, 0], (List.range 12).toArray⟩

def lumaAc : HuffmanTable :=
  ⟨#[0, 2, 1, 3, 3, 2, 4, 3, 5, 5, 4, 4, 0, 0, 1, 0x7d], #[
    0x01, 0x02, 0x03, 0x00, 0x04, 0x11, 0x05, 0x12, 0x21, 0x31, 0x41, 0x06, 0x13, 0x51, 0x61, 0x07,
    0x22, 0x71, 0x14, 0x32, 0x81, 0x91, 0xa1, 0x08, 0x23, 0x42, 0xb1, 0xc1, 0x15, 0x52, 0xd1, 0xf0,
    0x24, 0x33, 0x62, 0x72, 0x82, 0x09, 0x0a, 0x16, 0x17, 0x18, 0x19, 0x1a, 0x25, 0x26, 0x27, 0x28,
    0x29, 0x2a, 0x34, 0x35, 0x36, 0x37, 0x38, 0x39, 0x3a, 0x43, 0x44, 0x45, 0x46, 0x47, 0x48, 0x49,
    0x4a, 0x53, 0x54, 0x55, 0x56, 0x57, 0x58, 0x59, 0x5a, 0x63, 0x64, 0x65, 0x66, 0x67, 0x68, 0x69,
    0x6a, 0x73, 0x74, 0x75, 0x76, 0x77, 0x78, 0x79, 0x7a, 0x83, 0x84, 0x85, 0x86, 0x87, 0x88, 0x89,
    0x8a, 0x92, 0x93, 0x94, 0x95, 0x96, 0x97, 0x98, 0x99, 0x9a, 0xa2, 0xa3, 0xa4, 0xa5, 0xa6, 0xa7,
    0xa8, 0xa9, 0xaa, 0xb2, 0xb3, 0xb4, 0xb5, 0xb6, 0xb7, 0xb8, 0xb9, 0xba, 0xc2, 0xc3, 0xc4, 0xc5,
    0xc6, 0xc7, 0xc8, 0xc9, 0xca, 0xd2, 0xd3, 0xd4, 0xd5, 0xd6, 0xd7, 0xd8, 0xd9, 0xda, 0xe1, 0xe2,
    0xe3, 0xe4, 0xe5, 0xe6, 0xe7, 0xe8, 0xe9, 0xea, 0xf1, 0xf2, 0xf3, 0xf4, 0xf5, 0xf6, 0xf7, 0xf8,
    0xf9, 0xfa]⟩

def chromaAc : HuffmanTable :=
  ⟨#[0, 2, 1, 2, 4, 4, 3, 4, 7, 5, 4, 4, 0, 1, 2, 0x77], #[
    0x00, 0x01, 0x02, 0x03, 0x11, 0x04, 0x05, 0x21, 0x31, 0x06, 0x12, 0x41, 0x51, 0x07, 0x61, 0x71,
    0x13, 0x22, 0x32, 0x81, 0x08, 0x14, 0x42, 0x91, 0xa1, 0xb1, 0xc1, 0x09, 0x23, 0x33, 0x52, 0xf0,
    0x15, 0x62, 0x72, 0xd1, 0x0a, 0x16, 0x24, 0x34, 0xe1, 0x25, 0xf1, 0x17, 0x18, 0x19, 0x1a, 0x26,
    0x27, 0x28, 0x29, 0x2a, 0x35, 0x36, 0x37, 0x38, 0x39, 0x3a, 0x43, 0x44, 0x45, 0x46, 0x47, 0x48,
    0x49, 0x4a, 0x53, 0x54, 0x55, 0x56, 0x57, 0x58, 0x59, 0x5a, 0x63, 0x64, 0x65, 0x66, 0x67, 0x68,
    0x69, 0x6a, 0x73, 0x74, 0x75, 0x76, 0x77, 0x78, 0x79, 0x7a, 0x82, 0x83, 0x84, 0x85, 0x86, 0x87,
    0x88, 0x89, 0x8a, 0x92, 0x93, 0x94, 0x95, 0x96, 0x97, 0x98, 0x99, 0x9a, 0xa2, 0xa3, 0xa4, 0xa5,
    0xa6, 0xa7, 0xa8, 0xa9, 0xaa, 0xb2, 0xb3, 0xb4, 0xb5, 0xb6, 0xb7, 0xb8, 0xb9, 0xba, 0xc2, 0xc3,
    0xc4, 0xc5, 0xc6, 0xc7, 0xc8, 0xc9, 0xca, 0xd2, 0xd3, 0xd4, 0xd5, 0xd6, 0xd7, 0xd8, 0xd9, 0xda,
    0xe2, 0xe3, 0xe4, 0xe5, 0xe6, 0xe7, 0xe8, 0xe9, 0xea, 0xf2, 0xf3, 0xf4, 0xf5, 0xf6, 0xf7, 0xf8,
    0xf9, 0xfa]⟩

/-- The code of every symbol `0 ... 255` as (length, code): codes are handed out in symbol
order, consecutive within a length, and doubled when moving to the next length. -/
def HuffmanTable.codes (t : HuffmanTable) : Array (Nat × Nat) :=
  let (table, _, _) := (List.range 16).foldl (fun (table, code, k) i =>
    let n := t.counts.getD i 0
    let (table, code, k) := (List.range n).foldl (fun (table, code, k) _ =>
      (table.set! (t.symbols.getD k 0) (i + 1, code), code + 1, k + 1)) (table, code, k)
    (table, code * 2, k)) (Array.replicate 256 (0, 0), 0, 0)
  table

/-- A bit writer for the scan: the finished bytes, and `count < 8` more bits held in
`pending`, most significant first. -/
structure Sink where
  bytes : Array UInt8
  pending : Nat
  count : Nat

/-- Appends the `n` low bits of `v`, most significant first; every `0xFF` byte moved out is
followed by a zero byte. -/
def Sink.write (s : Sink) (v n : Nat) : Sink :=
  let acc := (s.pending <<< n) + v % (1 <<< n)
  let count := s.count + n
  let bytes := (List.range (count / 8)).foldl (fun bs i =>
    let b := (acc >>> (count - 8 * (i + 1))) % 256
    if b = 255 then (bs.push 255).push 0 else bs.push b.toUInt8) s.bytes
  ⟨bytes, acc % (1 <<< (count % 8)), count % 8⟩

/-- Writes one symbol with its code from a table of (length, code). -/
def Sink.symbol (s : Sink) (codes : Array (Nat × Nat)) (sym : Nat) : Sink :=
  let (len, code) := codes.getD sym (0, 0)
  s.write code len

/-- The scan's bytes: seven one bits complete the last byte, and bits past it are dropped. -/
def Sink.finish (s : Sink) : Array UInt8 := (s.write 0x7F 7).bytes

/-- The Y, Cb and Cr samples of an RGB pixel. -/
def ycbcr (r g b : Nat) : Nat × Nat × Nat :=
  ((19595 * r + 38469 * g + 7471 * b + 32767) / 65536,
   (32768 * b + 8421375 - (11059 * r + 21709 * g)) / 65536,
   (32768 * r + 8421375 - (27439 * g + 5329 * b)) / 65536)

/-- The even part of one pass: outputs 2 and 6 from the difference of the outer sums and of the
inner sums, scaled down by `d` with rounding. -/
def evenPart (d : Int) (t12 t13 : Int) : Int × Int :=
  let z1 := (t12 + t13) * 4433 + d / 2
  ((z1 + t12 * 6270) / d, (z1 - t13 * 15137) / d)

/-- The odd part of one pass: outputs 1, 3, 5 and 7 from the four differences, scaled down by
`d` with rounding. -/
def oddPart (d : Int) (t0 t1 t2 t3 : Int) : Int × Int × Int × Int :=
  let t12 := t0 + t2
  let t13 := t1 + t3
  let z1 := (t12 + t13) * 9633 + d / 2
  let t12 := t12 * (-3196) + z1
  let t13 := t13 * (-16069) + z1
  let z1 := (t0 + t3) * (-7373)
  let t0 := t0 * 12299 + z1 + t12
  let t3 := t3 * 2446 + z1 + t13
  let z1 := (t1 + t2) * (-20995)
  let t1 := t1 * 25172 + z1 + t13
  let t2 := t2 * 16819 + z1 + t12
  (t0 / d, t1 / d, t2 / d, t3 / d)

/-- One pass of the DCT over eight values. The first pass (over rows) removes the level shift
of `128` from the DC term and keeps two extra bits; the second (over columns) takes them off. -/
def pass (first : Bool) (s : Array Int) : Array Int :=
  let g (i : Nat) : Int := s.getD i 0
  let t0 := g 0 + g 7
  let t1 := g 1 + g 6
  let t2 := g 2 + g 5
  let t3 := g 3 + g 4
  let t10 := t0 + t3
  let t12 := t0 - t3
  let t11 := t1 + t2
  let t13 := t1 - t2
  let d : Int := if first then 2048 else 32768
  let (c0, c4) :=
    if first then ((t10 + t11 - 1024) * 4, (t10 - t11) * 4)
    else ((t10 + 2 + t11) / 4, (t10 + 2 - t11) / 4)
  let (c2, c6) := evenPart d t12 t13
  let (c1, c3, c5, c7) := oddPart d (g 0 - g 7) (g 1 - g 6) (g 2 - g 5) (g 3 - g 4)
  #[c0, c1, c2, c3, c4, c5, c6, c7]

/-- The DCT of a block of 64 samples, row-major, scaled up by 8. -/
def fdct (block : Array Int) : Array Int :=
  let rows := (List.range 8).foldl (fun acc y => acc ++ pass true (block.extract (8 * y) (8 * y + 8)))
    #[]
  let cols := (List.range 8).toArray.map fun x =>
    pass false ((List.range 8).toArray.map fun k => rows.getD (8 * k + x) 0)
  Array.ofFn (n := 64) fun i => (cols.getD (i.val % 8) #[]).getD (i.val / 8) 0

/-- A DCT coefficient over its quantizer: first divided by 8 toward zero, then by `q` with
halves rounded away from zero. -/
def quantize (c : Int) (q : Nat) : Int :=
  let a := c.tdiv 8
  let m := (2 * a.natAbs + q) / (2 * q)
  if a < 0 then -(m : Int) else m

/-- The size category of a coefficient and the bits that follow it: the magnitude's bit
length, and the value itself, or one less than it for a negative value, in that many bits. -/
def category (c : Int) : Nat × Nat :=
  let n := Nat.log2 c.natAbs + (if c = 0 then 0 else 1)
  let v : Int := if c < 0 then c - 1 else c
  (n, (v % (1 <<< n : Nat)).toNat)

/-- Codes one quantized block (row-major) after the previous DC term of its component, and
gives its own DC term. -/
def Sink.block (s : Sink) (dc ac : Array (Nat × Nat)) (prev : Int) (blk : Array Int) :
    Sink × Int :=
  let dcv := blk.getD 0 0
  let (n, v) := category (dcv - prev)
  let s := (s.symbol dc n).write v n
  let (s, run) := (zigzag.extract 1 64).foldl (fun (s, run) k =>
    let c := blk.getD k 0
    if c = 0 then (s, run + 1)
    else
      let s := (List.range (run / 16)).foldl (fun s _ => s.symbol ac 0xF0) s
      let (n, v) := category c
      ((s.symbol ac ((run % 16) * 16 + n)).write v n, 0)) (s, 0)
  let s := if run > 0 then s.symbol ac 0 else s
  (s, dcv)

/-- The 64 samples of one component of the block whose top left pixel is `(left, top)`, taking
the nearest pixel inside the image for positions past its edge. -/
def blockOf (w h : Nat) (px : Array UInt8) (left top : Nat) (comp : Nat × Nat × Nat → Nat) :
    Array Int :=
  Array.ofFn (n := 64) fun i =>
    let x := min (left + i.val % 8) (w - 1)
    let y := min (top + i.val / 8) (h - 1)
    let k := 3 * (y * w + x)
    (comp (ycbcr (px.getD k 0).toNat (px.getD (k + 1) 0).toNat (px.getD (k + 2) 0).toNat) : Int)

/-- The entropy-coded scan of a `w × h` image of packed RGB pixels. -/
def scan (w h : Nat) (px : Array UInt8) : Array UInt8 :=
  let lq := scaled lumaTable
  let cq := scaled chromaTable
  let (ld, la, cd, ca) := (lumaDc.codes, lumaAc.codes, chromaDc.codes, chromaAc.codes)
  let quant (q : Array Nat) (b : Array Int) : Array Int :=
    (fdct b).mapIdx fun i c => quantize c (q.getD i 1)
  let positions := (List.range ((h + 7) / 8)).flatMap fun j =>
    (List.range ((w + 7) / 8)).map fun i => (8 * i, 8 * j)
  let (s, _, _, _) := positions.foldl (fun (s, py, pb, pr) (x, y) =>
    let (s, py) := s.block ld la py (quant lq (blockOf w h px x y (·.1)))
    let (s, pb) := s.block cd ca pb (quant cq (blockOf w h px x y (·.2.1)))
    let (s, pr) := s.block cd ca pr (quant cq (blockOf w h px x y (·.2.2)))
    (s, py, pb, pr)) ((⟨#[], 0, 0⟩ : Sink), (0 : Int), (0 : Int), (0 : Int))
  s.finish

/-- A 16-bit number, most significant byte first. -/
def be16 (n : Nat) : Array UInt8 := #[(n / 256).toUInt8, n.toUInt8]

/-- A marker segment: the marker, the length of the payload and itself, and the payload. -/
def segment (marker : UInt8) (payload : Array UInt8) : Array UInt8 :=
  #[0xFF, marker] ++ be16 (payload.size + 2) ++ payload

/-- The segment holding a quantization table, its entries in zigzag order. -/
def quantSegment (id : UInt8) (t : Array Nat) : Array UInt8 :=
  segment 0xDB (#[id] ++ zigzag.map fun k => (t.getD k 1).toUInt8)

/-- The segment holding a Huffman table of a class (`0` DC, `1` AC) and a destination. -/
def huffmanSegment (cls dest : UInt8) (t : HuffmanTable) : Array UInt8 :=
  segment 0xC4 (#[cls * 16 + dest] ++ t.counts.map (·.toUInt8) ++ t.symbols.map (·.toUInt8))

/-- The JPEG file of a `w × h` image of packed RGB pixels. -/
def encode (w h : Nat) (px : Array UInt8) : Array UInt8 :=
  #[0xFF, 0xD8] ++
  segment 0xE0 #[0x4A, 0x46, 0x49, 0x46, 0x00, 0x01, 0x02, 0x00, 0x00, 0x01, 0x00, 0x01, 0x00, 0x00] ++
  segment 0xC0 (#[8] ++ be16 h ++ be16 w ++ #[3, 1, 0x11, 0, 2, 0x11, 1, 3, 0x11, 1]) ++
  quantSegment 0 (scaled lumaTable) ++ quantSegment 1 (scaled chromaTable) ++
  huffmanSegment 0 0 lumaDc ++ huffmanSegment 1 0 lumaAc ++
  huffmanSegment 0 1 chromaDc ++ huffmanSegment 1 1 chromaAc ++
  segment 0xDA #[3, 1, 0x00, 2, 0x11, 3, 0x11, 0, 63, 0] ++
  scan w h px ++ #[0xFF, 0xD9]

end CameraOverlay.Jpeg
