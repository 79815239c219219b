/-!
# Inflating deflate streams

A deflate stream is a sequence of blocks, each stored (raw bytes), compressed with the fixed
Huffman codes, or compressed with codes described at the start of the block. Compressed blocks
hold literal bytes and back-references: a length and a distance into the output produced so
far. Bits are read from the least significant end of each byte; Huffman codes are read one bit
at a time, most significant bit of the code first.

Codes are decoded the canonical way: with `counts[l]` the number of codes of length `l` and the
symbols listed by length and then by value, the codes of one length are consecutive numbers
following the last code of the length before, doubled. A block's codes must be complete: every
bit string of the longest length starts exactly one code. Only a distance code may be empty or
a single code of one bit, and the literal/length code must give the end of block a code. Every
loop reads at least one bit per step, so one more step than the input has bits bounds every
loop.

A reader that wants only the first `need` bytes of the output stops as soon as it has them, as
a reader whose output buffer is full does: inside a block it reads no further. When the bytes
wanted end exactly with a stored block, it still reads the headers of the blocks after it, as
far as they need no room for output and as far as the input it was given reaches; a malformed
header there is an error, and input that ends there is not. A zlib stream carried in several
pieces is given to the reader piece by piece, so that input ends with the piece that held the
stored block's last byte. The checksum at the end of a zlib stream is not looked at.
-/

namespace CameraOverlay.Inflate

/-- Why a deflate stream cannot be read: the input ends before the stream does, or the stream
is malformed. -/
inductive InflateError where
  | truncated
  | malformed (reason : String)
deriving DecidableEq, Repr

def InflateError.message : InflateError → String
  | .truncated => "unexpected end of deflate stream"
  | .malformed reason => reason

/-- A bit reader: the input, and the offset of the next bit. -/
abbrev BitReader := ReaderT (Array UInt8) (StateT Nat (Except InflateError))

/-- The number of steps no loop of the reader can exceed. -/
def fuel : BitReader Nat := do return (← read).size * 8 + 1

def bit : BitReader Nat := do
  let i ← get
  match (← read)[i / 8]? with
  | some b =>
    set (i + 1)
    return (b.toNat >>> (i % 8)) % 2
  | none => throw .truncated

/-- Reads `n` bits, least significant first. -/
def bits : Nat → BitReader Nat
  | 0 => pure 0
  | n + 1 => do
    let b ← bit
    let rest ← bits n
    return b + 2 * rest

def align : BitReader Unit := modify fun i => (i + 7) / 8 * 8

/-- A canonical Huffman code: how many codes each length has, and the symbols by length. -/
structure Huffman where
  counts : Array Nat
  symbols : Array Nat

/-- The code with the given code lengths, one per symbol (`0` for an unused symbol). -/
def Huffman.ofLengths (lengths : Array Nat) : Huffman :=
  let counts := lengths.foldl (fun c l => if l = 0 then c else c.modify l (· + 1))
    (Array.replicate 16 0)
  let symbols := (List.range 16).foldl (fun acc l =>
    acc ++ ((List.range lengths.size).filter fun s => lengths.getD s 0 = l ∧ l ≠ 0).toArray) #[]
  ⟨counts, symbols⟩

/-- Whether code lengths (`0` for an unused symbol) describe a complete code: with `m` the
longest length, the codes use up all `2 ^ m` strings of `m` bits, counting a code of length `l`
as `2 ^ (m - l)` of them. -/
def complete (lengths : Array Nat) : Bool :=
  let m := lengths.foldl max 1
  let used := (List.range m).foldl (fun acc l =>
    2 * acc + (lengths.toList.filter (· = l + 1)).length) 0
  used = Nat.pow 2 m

/-- Whether code lengths describe a usable distance code: complete, empty, or a single code of
one bit. -/
def distanceUsable (lengths : Array Nat) : Bool :=
  complete lengths || lengths.all (· = 0) ||
    ((lengths.toList.filter (· ≠ 0)) = [1])

/-- Decodes one symbol, reading up to 15 bits. -/
def Huffman.decode (h : Huffman) : BitReader Nat := do
  let rec go : Nat → Nat → Nat → Nat → Nat → BitReader Nat
    | 0, _, _, _, _ => throw (.malformed "invalid Huffman code")
    | fuel + 1, len, code, first, index => do
      let code := code + (← bit)
      let count := h.counts.getD len 0
      if code < first + count then
        match h.symbols[index + (code - first)]? with
        | some s => return s
        | none => throw (.malformed "invalid Huffman code")
      else go fuel (len + 1) (code * 2) ((first + count) * 2) (index + count)
  go 15 1 0 0 0

/-- Base lengths of length symbols `257 ...`. -/
def lengthBase : Array Nat :=
  #[3, 4, 5, 6, 7, 8, 9, 10, 11, 13, 15, 17, 19, 23, 27, 31, 35, 43, 51, 59, 67, 83, 99, 115,
    131, 163, 195, 227, 258]

/-- Extra bits of length symbols `257 ...`. -/
def lengthExtra : Array Nat :=
  #[0, 0, 0, 0, 0, 0, 0, 0, 1, 1, 1, 1, 2, 2, 2, 2, 3, 3, 3, 3, 4, 4, 4, 4, 5, 5, 5, 5, 0]

/-- Base distances of distance symbols. -/
def distanceBase : Array Nat :=
  #[1, 2, 3, 4, 5, 7, 9, 13, 17, 25, 33, 49, 65, 97, 129, 193, 257, 385, 513, 769, 1025, 1537,
    2049, 3073, 4097, 6145, 8193, 12289, 16385, 24577]

/-- Extra bits of distance symbols. -/
def distanceExtra : Array Nat :=
  #[0, 0, 0, 0, 1, 1, 2, 2, 3, 3, 4, 4, 5, 5, 6, 6, 7, 7, 8, 8, 9, 9, 10, 10, 11, 11, 12, 12, 13,
    13]

/-- Appends `len` bytes copied from `dist` bytes back, one at a time, so that a copy may overlap
what it produces. -/
def copyBack (out : Array UInt8) (dist : Nat) : Nat → Array UInt8
  | 0 => out
  | n + 1 => copyBack (out.push (out.getD (out.size - dist) 0)) dist n

/-- Decodes the symbols of a compressed block up to its end symbol, or until the output holds
`need` bytes; answers the output and whether the block ended. -/
def codes (need : Nat) (lit dist : Huffman) :
    Nat → Array UInt8 → BitReader (Array UInt8 × Bool)
  | 0, _ => throw (.malformed "deflate block too long")
  | fuel + 1, out => do
    if out.size ≥ need then return (out, false)
    let s ← lit.decode
    if s < 256 then codes need lit dist fuel (out.push s.toUInt8)
    else if s = 256 then return (out, true)
    else
      let i := s - 257
      match lengthBase[i]?, lengthExtra[i]? with
      | some base, some extra =>
        let len := base + (← bits extra)
        let d ← dist.decode
        match distanceBase[d]?, distanceExtra[d]? with
        | some dbase, some dextra =>
          let back := dbase + (← bits dextra)
          if back > out.size then throw (.malformed "distance too far back")
          else codes need lit dist fuel (copyBack out back len)
        | _, _ => throw (.malformed "invalid distance symbol")
      | _, _ => throw (.malformed "invalid length symbol")

def fixedLit : Huffman :=
  Huffman.ofLengths ((List.range 288).map fun s =>
    if s < 144 then 8 else if s < 256 then 9 else if s < 280 then 7 else 8).toArray

def fixedDist : Huffman := Huffman.ofLengths (Array.replicate 30 5)

/-- The order in which the lengths of the code-length code are given. -/
def lengthOrder : List Nat := [16, 17, 18, 0, 8, 7, 9, 6, 10, 5, 11, 4, 12, 3, 13, 2, 14, 1, 15]

/-- Reads `n` code lengths with the code-length code: `16` repeats the previous length,
`17` and `18` give runs of zeros. A run may not reach past the `n` lengths. -/
def codeLengths (h : Huffman) (n : Nat) : Nat → Array Nat → BitReader (Array Nat)
  | 0, acc => return acc
  | fuel + 1, acc => do
    if acc.size > n then throw (.malformed "code length run too long")
    if acc.size = n then return acc
    let s ← h.decode
    if s < 16 then codeLengths h n fuel (acc.push s)
    else if s = 16 then
      match acc.back? with
      | some prev => codeLengths h n fuel (acc ++ Array.replicate (3 + (← bits 2)) prev)
      | none => throw (.malformed "repeat with no previous length")
    else if s = 17 then codeLengths h n fuel (acc ++ Array.replicate (3 + (← bits 3)) 0)
    else codeLengths h n fuel (acc ++ Array.replicate (11 + (← bits 7)) 0)

/-- The codes described at the start of a dynamic block: at most 286 literal/length codes and 30
distance codes, each code complete (the distance code may also be empty or a single code). -/
def dynamicCodes : BitReader (Huffman × Huffman) := do
  let nlit := 257 + (← bits 5)
  let ndist := 1 + (← bits 5)
  let nlen := 4 + (← bits 4)
  if nlit > 286 || ndist > 30 then throw (.malformed "too many length or distance symbols")
  let given ← (lengthOrder.take nlen).mapM fun s => do return (s, ← bits 3)
  let lenLengths := ((List.range 19).map fun s => (given.lookup s).getD 0).toArray
  if !complete lenLengths then throw (.malformed "invalid code lengths set")
  let lengths ← codeLengths (Huffman.ofLengths lenLengths) (nlit + ndist) (nlit + ndist + 1) #[]
  let litLengths := lengths.extract 0 nlit
  let distLengths := lengths.extract nlit
  if litLengths.getD 256 0 = 0 then throw (.malformed "no code for the end of block")
  if !complete litLengths then throw (.malformed "invalid literal/lengths set")
  if !distanceUsable distLengths then throw (.malformed "invalid distances set")
  return (Huffman.ofLengths litLengths, Huffman.ofLengths distLengths)

/-- A stored block, from after its header bits: answers the output with the bytes of the block
the input holds, and whether it holds them all. The block must be whole unless its bytes bring
the output to `need` bytes. -/
def stored (need : Nat) (out : Array UInt8) : BitReader (Array UInt8 × Bool) := do
  align
  let len ← bits 16
  let nlen ← bits 16
  if len + nlen ≠ 65535 then throw (.malformed "stored block length does not match its complement")
  let i ← get
  let data ← read
  let out := out ++ data.extract (i / 8) (i / 8 + len)
  let whole := i / 8 + len ≤ data.size
  if !whole ∧ out.size < need then throw .truncated
  set (i + len * 8)
  return (out, whole)

inductive Stop where
  /-- Inside a block, with the output full. -/
  | inside
  /-- Exactly at the end of a stored block, with the output full; `last` if no block follows. -/
  | storedEnd (last : Bool)
  /-- At the end of the last block. -/
  | streamEnd
deriving DecidableEq, Repr

/-- Inflates blocks until the output holds `need` bytes or the last block ends; answers the
output and where it stopped. -/
def blocks (need : Nat) : Nat → Array UInt8 → BitReader (Array UInt8 × Stop)
  | 0, _ => throw (.malformed "too many deflate blocks")
  | fuel + 1, out => do
    let last := (← bit) = 1
    let kind ← bits 2
    let (out, stop) ← match kind with
      | 0 => do
        let (out', whole) ← stored need out
        if out'.size < need then pure (out', none)
        else if whole ∧ out'.size = need then pure (out', some (Stop.storedEnd last))
        else pure (out', some Stop.inside)
      | 1 => do
        let (out', ended) ← codes need fixedLit fixedDist (← Inflate.fuel) out
        pure (out', if ended then none else some Stop.inside)
      | 2 => do
        let (lit, dist) ← dynamicCodes
        let (out', ended) ← codes need lit dist (← Inflate.fuel) out
        pure (out', if ended then none else some Stop.inside)
      | _ => throw (.malformed "invalid deflate block type")
    match stop with
    | some s => return (out, s)
    | none => if last then return (out, .streamEnd) else blocks need fuel out

/-- Reads the headers of the blocks that follow, as a reader with no room for output does: a
stored block's lengths (and on past an empty one), or a dynamic block's codes. -/
def headersAfter : Nat → BitReader Unit
  | 0 => pure ()
  | fuel + 1 => do
    let last := (← bit) = 1
    match ← bits 2 with
    | 0 =>
      align
      let len ← bits 16
      let nlen ← bits 16
      if len + nlen ≠ 65535 then
        throw (.malformed "stored block length does not match its complement")
      if len = 0 ∧ !last then headersAfter fuel
    | 1 => pure ()
    | 2 => discard dynamicCodes
    | _ => throw (.malformed "invalid deflate block type")

/-- Whether a two-byte zlib header is one a reader accepts: deflate with a window of at most
32 KiB, a correct check value, and no preset dictionary. -/
def zlibHeaderOk (cmf flg : UInt8) : Bool :=
  cmf % 16 = 8 && cmf / 16 ≤ 7 && (cmf.toNat * 256 + flg.toNat) % 31 = 0 && flg &&& 0x20 = 0

/-- The offset just past the piece that holds byte `i` of the pieces laid end to end. -/
def pieceEnd (pieces : List (Array UInt8)) (i : Nat) : Nat :=
  let (_, found) := pieces.foldl (fun (start, found) p =>
    match found with
    | some e => (start + p.size, some e)
    | none => (start + p.size, if i < start + p.size then some (start + p.size) else none))
    (0, none)
  found.getD (pieces.foldl (fun n p => n + p.size) 0)

/-- Inflates a zlib stream given in pieces, a two-byte header and then a deflate stream, up to
its first `need` bytes. -/
def unzlibPieces (need : Nat) (pieces : List (Array UInt8)) : Except String (Array UInt8) :=
  let data := pieces.foldl (· ++ ·) #[]
  match data[0]?, data[1]? with
  | some cmf, some flg =>
    if !zlibHeaderOk cmf flg then .error "invalid zlib header"
    else
      let stream := data.extract 2
      match ((do blocks need (← fuel) #[] : BitReader (Array UInt8 × Stop)).run stream).run 0 with
      | .error e => .error e.message
      | .ok ((out, .storedEnd false), pos) =>
        let given := stream.extract 0 (pieceEnd pieces (2 + pos / 8 - 1) - 2)
        match ((do headersAfter (← fuel) : BitReader Unit).run given).run pos with
        | .error (.malformed reason) => .error reason
        | _ => .ok out
      | .ok ((out, _), _) => .ok out
  | _, _ => .error "zlib stream too short"

end CameraOverlay.Inflate
