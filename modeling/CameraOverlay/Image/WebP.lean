import CameraOverlay.Image.Deflate
/-!
# Lossless WebP

An 8-bit RGB image is written as a simple WebP file: a RIFF container holding one `VP8L`
chunk (padded to an even size). The lossless bitstream has, least significant bit first:

* the signature `0x2f`, the width and height less one in 14 bits each, no alpha, version 0;
* a subtract-green transform (red and blue become their difference from green);
* a predictor transform with blocks of 512 pixels a side, every block predicting from the pixel
  above (so the first row predicts from the left, and the first pixel from opaque black);
  its block image is coded with one-symbol codes and takes no bits per block;
* no colour cache and one set of prefix codes for the whole image;
* Huffman codes for green with run lengths, for red and for blue, built from the residuals'
  frequencies and limited to 15 bits, and one-symbol codes for alpha (`0`) and distance (the
  left neighbour);
* the residual pixels: green, red, blue, each followed, when the next pixels repeat it (at most
  4096 of them), by a copy of that many pixels from distance one.

A Huffman code is built with a binary heap keyed only by frequency, so equal frequencies are
served in whatever order the heap's sifting leaves them; that order decides the code and is
kept exactly. When a code needs more than its limit of bits, the counts per length are
rebalanced and the lengths handed out again from the longest, least frequent symbols first.
A code's lengths are sent with a code-length code (limited to 7 bits) over all 19 code-length
symbols, the three repeat symbols unused; a code with at most one symbol is sent as a
one-symbol code instead.
-/

namespace CameraOverlay.WebP

open Deflate

/-! ## A heap of (frequency, node) entries -/

/-- An entry of the heap: a frequency and a node. The entry with the smallest frequency is on
top; entries of equal frequency rank the same. -/
abbrev Entry := Nat × Nat

/-- Moves the entry `elem` down from the vacant position `hole` among the first `stop` entries:
it goes past the higher-ranking child (the right one when they rank the same) while that child
ranks strictly higher. The fuel bounds the depth. -/
def siftDownFrom (elem : Entry) (stop : Nat) : Nat → Array Entry → Nat → Array Entry
  | 0, d, hole => d.set! hole elem
  | fuel + 1, d, hole =>
    let child := 2 * hole + 1
    if child + 1 < stop then
      let child := if (d.getD child (0, 0)).1 ≥ (d.getD (child + 1) (0, 0)).1 then child + 1
        else child
      let c := d.getD child (0, 0)
      if elem.1 ≤ c.1 then d.set! hole elem
      else siftDownFrom elem stop fuel (d.set! hole c) child
    else if child + 1 = stop ∧ (d.getD child (0, 0)).1 < elem.1 then
      (d.set! hole (d.getD child (0, 0))).set! child elem
    else d.set! hole elem

/-- Restores the heap below position `pos` among the first `stop` entries. -/
def siftDown (d : Array Entry) (pos stop : Nat) : Array Entry :=
  siftDownFrom (d.getD pos (0, 0)) stop d.size d pos

/-- Moves the vacancy at `hole` to the bottom, always through the higher-ranking child (the
right one when they rank the same), and gives its final position. -/
def vacancyToBottom (stop : Nat) : Nat → Array Entry → Nat → Array Entry × Nat
  | 0, d, hole => (d, hole)
  | fuel + 1, d, hole =>
    let child := 2 * hole + 1
    if child + 1 < stop then
      let child := if (d.getD child (0, 0)).1 ≥ (d.getD (child + 1) (0, 0)).1 then child + 1
        else child
      vacancyToBottom stop fuel (d.set! hole (d.getD child (0, 0))) child
    else if child + 1 = stop then (d.set! hole (d.getD child (0, 0)), child)
    else (d, hole)

/-- Moves the entry `elem` up from the vacant position `hole` while its parent ranks strictly
lower. -/
def siftUpFrom (elem : Entry) : Nat → Array Entry → Nat → Array Entry
  | 0, d, hole => d.set! hole elem
  | fuel + 1, d, hole =>
    if hole > 0 then
      let parent := (hole - 1) / 2
      let p := d.getD parent (0, 0)
      if elem.1 ≥ p.1 then d.set! hole elem
      else siftUpFrom elem fuel (d.set! hole p) parent
    else d.set! hole elem

/-- Takes the top entry off: the last entry fills the top's place, sinks to the bottom and
rises back to where it belongs. -/
def pop (d : Array Entry) : Option (Entry × Array Entry) :=
  match d.back? with
  | none => none
  | some last =>
    let d := d.pop
    if d.isEmpty then some (last, d)
    else
      let (d', hole) := vacancyToBottom d.size d.size d 0
      some (d.getD 0 (0, 0), siftUpFrom last d.size d' hole)

/-- A heap of the entries, sifting down from the last parent to the top. -/
def heapify (d : Array Entry) : Array Entry :=
  (List.range (d.size / 2)).reverse.foldl (fun d n => siftDown d n d.size) d

/-! ## Huffman codes -/

/-- Merges the two top entries until one is left: the popped entry and the new top become the
children of a new node `n + k` (the `k`-th merge), which takes the top's place with their summed
frequency. Gives the children of each new node. -/
def merge (n : Nat) : Nat → Array Entry → Array (Nat × Nat) → Array (Nat × Nat)
  | 0, _, internal => internal
  | fuel + 1, heap, internal =>
    if heap.size > 1 then
      match pop heap with
      | none => internal
      | some ((f, node), heap) =>
        let top := heap.getD 0 (0, 0)
        let internal := internal.push (node, top.2)
        let heap := heap.set! 0 (f + top.1, n + internal.size - 1)
        merge n fuel (siftDown heap 0 heap.size) internal
    else internal

/-- Each symbol's depth in the tree of the merges: the last node made is the root, and a
node's children lie one deeper than it. -/
def depths (n : Nat) (internal : Array (Nat × Nat)) : Array Nat :=
  let d := (List.range internal.size).reverse.foldl (fun d k =>
    let depth := d.getD (n + k) 0
    let (l, r) := internal.getD k (0, 0)
    (d.set! l (depth + 1)).set! r (depth + 1)) (Array.replicate (n + internal.size) 0)
  d.extract 0 n

/-- Takes codes off the longest lengths until the lengths fit within `limit` bits: each time, a
code of the longest length below `limit` that has one becomes two codes a bit longer, and one
code of length `limit` goes. `total` is the Kraft sum scaled by `2 ^ limit`. -/
def rebalance (limit : Nat) : Nat → Array Nat → Nat → Array Nat
  | 0, counts, _ => counts
  | fuel + 1, counts, total =>
    if total > (1 <<< limit) then
      let i := ((List.range limit).reverse.find? fun i => i ≥ 1 ∧ counts.getD i 0 ≠ 0).getD 0
      let counts := ((counts.modify i (· - 1)).modify limit (· - 1)).modify (i + 1) (· + 2)
      rebalance limit fuel counts (total - 1)
    else counts

/-- Lengths handed out from the counts per length: the symbols in order of increasing
frequency (keeping symbol order among equal ones) take the longest lengths left. -/
def assignLengths (limit : Nat) (freqs : Array Nat) (counts : Array Nat) : Array Nat :=
  let order := ((List.range freqs.size).mergeSort fun i j => freqs.getD i 0 ≤ freqs.getD j 0)
  let (lengths, _, _) := order.foldl (fun (lengths, counts, len) i =>
    if freqs.getD i 0 > 0 then
      let len := ((List.range (len + 1)).reverse.find? fun l => counts.getD l 0 ≠ 0).getD 0
      (lengths.set! i len, counts.modify len (· - 1), len)
    else (lengths, counts, len)) (Array.replicate freqs.size 0, counts, limit)
  lengths

/-- The code lengths of a Huffman code for the frequencies, limited to `limit` bits, or `none`
when at most one frequency is nonzero. -/
def codeLengths (freqs : Array Nat) (limit : Nat) : Option (Array Nat) :=
  let used := (List.range freqs.size).filter fun i => freqs.getD i 0 > 0
  if used.length ≤ 1 then none
  else
    let heap := heapify (used.toArray.map fun i => (freqs.getD i 0, i))
    let internal := merge freqs.size heap.size heap #[]
    let lengths := (depths freqs.size internal).mapIdx fun i d => if freqs.getD i 0 > 0 then d else 0
    if lengths.foldl max 0 ≤ limit then some lengths
    else
      let counts := lengths.foldl (fun c l => c.modify (min l limit) (· + 1)) (Array.replicate 16 0)
      let total := (List.range limit).foldl (fun t i =>
        t + (counts.getD (i + 1) 0 <<< (limit - (i + 1)))) 0
      let counts := rebalance limit total counts total
      some (assignLengths limit freqs counts)

/-- Writes a code with one symbol. -/
def single (s : BitSink) (sym : Nat) : BitSink :=
  let s := s.write 1 2
  if sym ≤ 1 then (s.write 0 1).write sym 1 else (s.write 1 1).write (sym % 256) 8

/-- The order in which the lengths of the code-length code are sent. -/
def codeLengthOrder : List Nat := [17, 18, 0, 1, 2, 3, 4, 5, 16, 6, 7, 8, 9, 10, 11, 12, 13, 14, 15]

/-- Writes the Huffman code for the frequencies and gives its lengths and (reversed) codes. -/
def tree (s : BitSink) (freqs : Array Nat) : BitSink × Array Nat × Array Nat :=
  match codeLengths freqs 15 with
  | none =>
    let sym := ((List.range freqs.size).find? fun i => freqs.getD i 0 > 0).getD 0
    (single s sym, Array.replicate freqs.size 0, Array.replicate freqs.size 0)
  | some lengths =>
    let lengthFreqs := lengths.foldl (fun c l => c.modify l (· + 1)) (Array.replicate 16 0)
    let lengthCode := codeLengths lengthFreqs 7
    let s := (s.write 0 1).write 15 4
    let s := codeLengthOrder.foldl (fun s i =>
      if i > 15 ∨ lengthFreqs.getD i 0 = 0 then s.write 0 3
      else match lengthCode with
        | none => s.write 1 3
        | some ls => s.write (ls.getD i 0) 3) s
    let s := if freqs.size = 256 then ((s.write 1 1).write 3 3).write 254 8 else s.write 0 1
    let s := match lengthCode with
      | none => s
      | some ls =>
        let cs := canonicalCodes ls
        lengths.foldl (fun s l => s.write (cs.getD l 0) (ls.getD l 0)) s
    (s, lengths, canonicalCodes lengths)

/-! ## The image -/

/-- A residual pixel: red, green and blue (alpha is always zero). -/
abbrev Residual := Nat × Nat × Nat

/-- The residuals of a `w × h` image of packed RGB pixels: red and blue less green, then less
the same of the pixel above, or on the first row of the pixel to the left. -/
def residuals (w h : Nat) (px : Array UInt8) : Array Residual :=
  let sg (k : Nat) : Residual :=
    let r := (px.getD (3 * k) 0).toNat
    let g := (px.getD (3 * k + 1) 0).toNat
    let b := (px.getD (3 * k + 2) 0).toNat
    ((r + 256 - g) % 256, g, (b + 256 - g) % 256)
  let minus (p q : Residual) : Residual :=
    ((p.1 + 256 - q.1) % 256, (p.2.1 + 256 - q.2.1) % 256, (p.2.2 + 256 - q.2.2) % 256)
  (List.range (w * h)).toArray.map fun k =>
    if k ≥ w then minus (sg k) (sg (k - w))
    else if k > 0 then minus (sg k) (sg (k - 1))
    else sg k

/-- The pixels as literals, each with the number of following pixels that repeat it (at most
4096). -/
def runs (ps : Array Residual) : Array (Residual × Nat) :=
  match ps[0]? with
  | none => #[]
  | some first =>
    let (done, lit, run) := (ps.extract 1 ps.size).foldl (fun (done, lit, run) p =>
      if p = lit ∧ run < 4096 then (done, lit, run + 1) else (done.push (lit, run), p, 0))
      (#[], first, 0)
    done.push (lit, run)

/-- The length symbol of a copy of `n ≥ 1` pixels and its number of extra bits. -/
def lengthSymbol (n : Nat) : Nat × Nat :=
  if n ≤ 4 then (n - 1, 0)
  else
    let l := n - 1
    let top := Nat.log2 l
    (2 * top + (l >>> (top - 1)) % 2, top - 1)

/-- Writes the lossless bitstream of a `w × h` image of packed RGB pixels. -/
def bitstream (w h : Nat) (px : Array UInt8) : Array UInt8 :=
  let items := runs (residuals w h px)
  let (f0, f1, f2) := items.foldl (fun (f0, f1, f2) (p, run) =>
    let f1 := f1.modify p.2.1 (· + 1)
    let f1 := if run > 0 then f1.modify (256 + (lengthSymbol run).1) (· + 1) else f1
    (f0.modify p.1 (· + 1), f1, f2.modify p.2.2 (· + 1)))
    (Array.replicate 256 0, Array.replicate 280 0, Array.replicate 256 0)
  let s : BitSink := ⟨#[], 0, 0⟩
  let s := (((((s.write 0x2f 8).write (w - 1) 14).write (h - 1) 14).write 0 1).write 0 3)
  let s := single (((s.write 0b101 3).write 0b111001 6).write 0 1) 2
  let s := (List.range 4).foldl (fun s _ => single s 0) s
  let s := ((s.write 0 1).write 0 1).write 0 1
  let (s, l1, c1) := tree s f1
  let (s, l0, c0) := tree s f0
  let (s, l2, c2) := tree s f2
  let s := single (single s 0) 1
  let s := items.foldl (fun s (p, run) =>
    let s := s.write (c1.getD p.2.1 0) (l1.getD p.2.1 0)
    let s := s.write (c0.getD p.1 0) (l0.getD p.1 0)
    let s := s.write (c2.getD p.2.2 0) (l2.getD p.2.2 0)
    if run > 0 then
      let (sym, extra) := lengthSymbol run
      let s := s.write (c1.getD (256 + sym) 0) (l1.getD (256 + sym) 0)
      if run > 4 then s.write ((run - 1) % (1 <<< extra)) extra else s
    else s) s
  s.finish

/-- A 32-bit number, least significant byte first. -/
def le32 (n : Nat) : Array UInt8 :=
  #[n.toUInt8, (n / 256).toUInt8, (n / 65536).toUInt8, (n / 16777216).toUInt8]

/-- The WebP file of a `w × h` image of packed RGB pixels. -/
def encode (w h : Nat) (px : Array UInt8) : Array UInt8 :=
  let frame := bitstream w h px
  let pad : Array UInt8 := if frame.size % 2 = 1 then #[0] else #[]
  "RIFF".toUTF8.data ++ le32 (12 + frame.size + pad.size) ++ "WEBP".toUTF8.data ++
    "VP8L".toUTF8.data ++ le32 frame.size ++ frame ++ pad

end CameraOverlay.WebP
