/-!
# Compressing image rows with one fixed Huffman code

Rows of a filtered image are mostly small numbers and runs of zeros. This compressor writes a
zlib stream of a single deflate block whose Huffman code is fixed in advance for such data: the
literal/length code has a length for each of the 286 symbols (short for bytes near `0` and
`255`), and the distance code has a single one-bit code for distance `1`. The block header that
describes these codes is the same for every stream, so it is written as a constant.

A row is read eight bytes at a time. An all-zero group only lengthens the current run of zeros;
a run ends with the zeros at the start of the next group that is not all zero, and the zeros at
the end of a group start a new run. A run of `n` zeros is written as one literal zero and then
copies of distance `1`: as many copies of length `258` as fit, then one copy of what is left if
that is more than `4`, else that many literal zeros. Each row ends its own run, and its last
`size % 8` bytes are written as literals.

A zlib stream can also store its data uncompressed, in blocks of at most `65535` bytes; a
writer that finds the compressed stream longer than the stored one stores the data instead.
Either stream ends with the Adler-32 checksum of the data.
-/

namespace CameraOverlay.Deflate

/-- The Adler-32 checksum of some bytes, as zlib ends its streams with. -/
def adler32 (bytes : Array UInt8) : UInt32 :=
  let (a, b) := bytes.foldl (fun (a, b) x => let a := (a + x.toNat) % 65521; (a, (b + a) % 65521))
    ((1 : Nat), (0 : Nat))
  (b * 65536 + a).toUInt32

/-- A 32-bit number, most significant byte first. -/
def be32 (n : UInt32) : Array UInt8 :=
  #[(n >>> 24).toUInt8, (n >>> 16).toUInt8, (n >>> 8).toUInt8, n.toUInt8]

def blockLimit : Nat := 65535

/-- Stored deflate blocks holding `data` from offset `start`; the last block is marked final.
The fuel bounds the number of blocks. -/
def storedBlocks (data : Array UInt8) : Nat → Nat → Array UInt8
  | 0, _ => #[]
  | fuel + 1, start =>
    let len := min blockLimit (data.size - start)
    let final := start + len ≥ data.size
    let header : Array UInt8 := #[if final then 1 else 0, len.toUInt8, (len / 256).toUInt8,
      (65535 - len).toUInt8, ((65535 - len) / 256).toUInt8]
    let block := header ++ data.extract start (start + len)
    if final then block else block ++ storedBlocks data fuel (start + len)

/-- A zlib stream holding `data` uncompressed. -/
def stored (data : Array UInt8) : Array UInt8 :=
  #[0x78, 0x01] ++ storedBlocks data (data.size / blockLimit + 1) 0 ++ be32 (adler32 data)

/-- A bit writer: the finished bytes, and `count` more bits held in `pending`, least
significant first. -/
structure BitSink where
  bytes : Array UInt8
  pending : Nat
  count : Nat

/-- Appends the `n` low bits of `v`, least significant first, moving every complete byte out. -/
def BitSink.write (s : BitSink) (v n : Nat) : BitSink :=
  let pending := s.pending + ((v % (1 <<< n)) <<< s.count)
  let count := s.count + n
  let full := count / 8
  let bytes := (List.range full).foldl (fun acc i => acc.push (pending >>> (8 * i)).toUInt8) s.bytes
  ⟨bytes, pending >>> (8 * full), count % 8⟩

/-- The bytes written, the last one completed with zero bits. -/
def BitSink.finish (s : BitSink) : Array UInt8 :=
  if s.count = 0 then s.bytes else s.bytes.push s.pending.toUInt8

/-- The code length of each literal/length symbol: bytes `0 ... 255`, end of block `256`, and
the lengths `257 ... 285`. -/
def codeLengths : Array Nat := #[
  2, 3, 4, 5, 5, 6, 6, 7, 7, 7, 8, 8, 8, 8, 8, 9, 9, 9, 9, 9, 9, 9, 10, 10,
  10, 10, 10, 10, 10, 10, 10, 11, 11, 11, 11, 11, 11, 11, 11, 11, 11, 11, 11, 12, 12, 12, 12, 12,
  12, 12, 12, 12, 12, 12, 12, 12, 12, 12, 12, 12, 12, 12, 12, 12, 12, 12, 12, 12, 12, 12, 12, 12,
  12, 12, 12, 12, 12, 12, 12, 12, 12, 12, 12, 12, 12, 12, 12, 12, 12, 12, 12, 12, 12, 12, 12, 12,
  12, 12, 12, 12, 12, 12, 12, 12, 12, 12, 12, 12, 12, 12, 12, 12, 12, 12, 12, 12, 12, 12, 12, 12,
  12, 12, 12, 12, 12, 12, 12, 12, 12, 12, 12, 12, 12, 12, 12, 12, 12, 12, 12, 12, 12, 12, 12, 12,
  12, 12, 12, 12, 12, 12, 12, 12, 12, 12, 12, 12, 12, 12, 12, 12, 12, 12, 12, 12, 12, 12, 12, 12,
  12, 12, 12, 12, 12, 12, 12, 12, 12, 12, 12, 12, 12, 12, 12, 12, 12, 12, 12, 12, 12, 12, 12, 12,
  12, 12, 12, 12, 12, 12, 12, 12, 12, 12, 12, 12, 12, 12, 12, 12, 12, 12, 12, 12, 12, 12, 11, 11,
  11, 11, 11, 11, 11, 11, 11, 11, 10, 11, 10, 10, 10, 10, 10, 10, 10, 10, 10, 9, 9, 9, 9, 9,
  8, 9, 8, 8, 8, 8, 8, 7, 7, 7, 6, 6, 6, 5, 4, 3, 12, 12, 12, 9, 9, 11, 10, 11,
  11, 10, 11, 11, 11, 11, 11, 11, 12, 11, 12, 12, 12, 12, 12, 12, 12, 12, 12, 12, 12, 9]

/-- The low `n` bits of `c` in reverse order. -/
def reverseBits (c n : Nat) : Nat :=
  (List.range n).foldl (fun acc i => acc * 2 + (c >>> i) % 2) 0

/-- The canonical codes of some code lengths, each reversed so that it is written least
significant bit first: the codes of one length are consecutive in symbol order, and the first
code of a length is twice the code after the last of the length before. -/
def canonicalCodes (lengths : Array Nat) : Array Nat :=
  let count (l : Nat) : Nat := if l = 0 then 0 else (lengths.toList.filter (· = l)).length
  let first : Array Nat := (List.range 15).foldl (fun acc l =>
    acc.push ((acc.getD l 0 + count l) * 2)) #[0]
  let (codes, _) := lengths.foldl (fun (codes, next) l =>
    if l = 0 then (codes.push 0, next)
    else (codes.push (reverseBits (next.getD l 0) l), next.modify l (· + 1))) (#[], first)
  codes

def codes : Array Nat := canonicalCodes codeLengths

def BitSink.symbol (s : BitSink) (sym : Nat) : BitSink :=
  s.write (codes.getD sym 0) (codeLengths.getD sym 0)

def BitSink.literals (s : BitSink) (bytes : Array UInt8) : BitSink :=
  bytes.foldl (fun s b => s.symbol b.toNat) s

/-- Base lengths of the length symbols `257 ...`. -/
def lengthBase : Array Nat :=
  #[3, 4, 5, 6, 7, 8, 9, 10, 11, 13, 15, 17, 19, 23, 27, 31, 35, 43, 51, 59, 67, 83, 99, 115,
    131, 163, 195, 227, 258]

/-- Extra bits of the length symbols `257 ...`. -/
def lengthExtra : Array Nat :=
  #[0, 0, 0, 0, 0, 0, 0, 0, 1, 1, 1, 1, 2, 2, 2, 2, 3, 3, 3, 3, 4, 4, 4, 4, 5, 5, 5, 5, 0]

/-- The length symbol (less `257`) of a copy of `len` bytes, `3 ≤ len < 258`: the last one
whose base is at most `len`. -/
def lengthIndex (len : Nat) : Nat :=
  ((List.range 28).filter fun i => lengthBase.getD i 0 ≤ len).getLastD 0

/-- Writes a copy of `len` bytes at distance `1`, `4 < len < 258`: its symbol, its extra bits,
and the one-bit distance code `0`. -/
def BitSink.copy (s : BitSink) (len : Nat) : BitSink :=
  let i := lengthIndex len
  let extra := lengthExtra.getD i 0
  (s.symbol (257 + i)).write ((len - 3) % (1 <<< extra)) (extra + 1)

/-- Writes a run of `n ≥ 1` zeros: a literal zero, then copies of the byte before. -/
def BitSink.zeros (s : BitSink) (n : Nat) : BitSink :=
  let s := s.symbol 0
  let rest := n - 1
  let s := (List.range (rest / 258)).foldl (fun s _ => s.write (codes.getD 285 0)
    (codeLengths.getD 285 0 + 1)) s
  let left := rest % 258
  if left > 4 then s.copy left else s.write 0 (left * codeLengths.getD 0 0)

/-- How many bytes at the start of a group are zero. -/
def zerosAtStart (g : Array UInt8) : Nat := (g.toList.takeWhile (· = 0)).length

/-- How many bytes at the end of a group are zero. -/
def zerosAtEnd (g : Array UInt8) : Nat := (g.toList.reverse.takeWhile (· = 0)).length

/-- Takes in a group of eight bytes with `run` zeros pending before it; answers the zeros
pending after it. -/
def BitSink.group (s : BitSink) (run : Nat) (g : Array UInt8) : BitSink × Nat :=
  if g.all (· = 0) then (s, run + 8)
  else
    let lead := zerosAtStart g
    let trail := zerosAtEnd g
    if run > 0 ∧ lead > 0 then ((s.zeros (run + lead)).literals (g.extract lead (8 - trail)), trail)
    else
      let s := if run > 0 then s.zeros run else s
      (s.literals (g.extract 0 (8 - trail)), trail)

def BitSink.row (s : BitSink) (row : Array UInt8) : BitSink :=
  let groups := row.size / 8
  let (s, run) := (List.range groups).foldl (fun (s, run) k =>
    s.group run (row.extract (8 * k) (8 * k + 8))) (s, 0)
  let s := if run > 0 then s.zeros run else s
  s.literals (row.extract (8 * groups) row.size)

/-- The zlib header and the block header describing the fixed codes, up to its last five bits
(`headerTail`). -/
def header : Array UInt8 := #[
  120, 1, 237, 192, 3, 160, 36, 89, 150, 198, 241, 255, 119, 238,
  141, 200, 204, 167, 114, 75, 99, 174, 109, 219, 182, 109, 219, 182,
  109, 219, 182, 109, 105, 140, 158, 150, 74, 175, 158, 50, 51, 34,
  238, 249, 118, 183, 106, 122, 166, 135, 59, 107, 213]

/-- The last five bits of the block header. -/
def headerTail : Nat := 15

/-- The zlib stream of some rows compressed with the fixed codes. -/
def fixedCodes (rows : List (Array UInt8)) : Array UInt8 :=
  let s := rows.foldl BitSink.row ⟨header, headerTail, 5⟩
  (s.symbol 256).finish ++ be32 (adler32 (rows.foldl (· ++ ·) #[]))

/-- The length of a zlib stream storing `raw` bytes, as the choice between compressed and
stored output counts it: `65540` bytes for each block before the last, and the last block's
header and data, which it takes to be `raw % 65535` bytes long. -/
def storedSize (raw : Nat) : Nat :=
  (raw - 1) / 65535 * 65540 + (raw % 65535 + 5) + 6

/-- The zlib stream of some rows: compressed with the fixed codes, or the rows given by
`unfiltered` stored, when the compressed stream is longer than a stored one. -/
def compressRows (rows unfiltered : List (Array UInt8)) : Array UInt8 :=
  let packed := fixedCodes rows
  let raw := rows.foldl (fun n r => n + r.size) 0
  if packed.size > storedSize raw then stored (unfiltered.foldl (· ++ ·) #[]) else packed

end CameraOverlay.Deflate
