import CameraOverlay.Image.Png
import CameraOverlay.Image.Jpeg
import CameraOverlay.Image.Gif
import CameraOverlay.Image.Tiff
import CameraOverlay.Image.WebP
import CameraOverlay.Path
import CameraOverlay.Text.Quoted
/-!
# Writing images in the format a file name asks for

An image file's format is named by the extension of its name, in any case: `png`, `bmp`, `qoi`,
`tga`, the netpbm family (`pbm`, `pgm`, `ppm`, `pam`, `pnm`) and others. A name without an
extension, or with one that names no format, cannot be written.

An 8-bit RGB image is written as follows:
* PNG as `Png.encode` writes it, JPEG as `Jpeg.encode`, GIF as `Gif.encode`, TIFF as
  `Tiff.encode` and WebP as `WebP.encode`;
* BMP as a 24-bit bitmap: the 54 bytes of the file and information headers, then the rows from
  the bottom up, each pixel as blue, green, red, each row padded to a multiple of four bytes;
* the netpbm family as a PAM file: a text header with width, height, depth, maximum value and
  tuple type, then the samples;
* QOI with its operations over the previous pixel, a run, or an index of 64 seen pixels;
* TGA as run-length encoded true colour from the top left, pixels as blue, green, red;
* ICO as an icon directory of one entry holding the PNG file.

DDS has no writer; HDR, OpenEXR and farbfeld files hold no 8-bit RGB samples. AVIF is written
as PNG here.
-/

namespace CameraOverlay.ImageFile

/-- The image formats a file name's extension can name. -/
inductive ImageFormat where
  | avif
  | jpeg
  | png
  | gif
  | webp
  | tiff
  | tga
  | dds
  | bmp
  | ico
  | hdr
  | openExr
  | pnm
  | farbfeld
  | qoi
deriving DecidableEq, Repr

namespace ImageFormat

/-- The format an extension names, whatever the case of its ASCII letters. -/
def ofExtension? (ext : String) : Option ImageFormat :=
  match ext.toLower with
  | "avif" => some avif
  | "jpg" | "jpeg" | "jfif" => some jpeg
  | "png" | "apng" => some png
  | "gif" => some gif
  | "webp" => some webp
  | "tif" | "tiff" => some tiff
  | "tga" => some tga
  | "dds" => some dds
  | "bmp" => some bmp
  | "ico" => some ico
  | "hdr" => some hdr
  | "exr" => some openExr
  | "pbm" | "pam" | "ppm" | "pgm" | "pnm" => some pnm
  | "ff" => some farbfeld
  | "qoi" => some qoi
  | _ => none

def name : ImageFormat → String
  | avif => "Avif"
  | jpeg => "Jpeg"
  | png => "Png"
  | gif => "Gif"
  | webp => "WebP"
  | tiff => "Tiff"
  | tga => "Tga"
  | dds => "Dds"
  | bmp => "Bmp"
  | ico => "Ico"
  | hdr => "Hdr"
  | openExr => "OpenExr"
  | pnm => "Pnm"
  | farbfeld => "Farbfeld"
  | qoi => "Qoi"

end ImageFormat

/-- The format of the file at a path, by the extension of its name. -/
def formatOfPath (path : String) : Except String ImageFormat :=
  match Path.extension? path with
  | none => .error "The image format could not be determined"
  | some ext =>
    match ImageFormat.ofExtension? ext with
    | some f => .ok f
    | none =>
      .error ("The file extension `." ++ Text.quoted ext ++ "` was not recognized as an image format")

/-- Why an 8-bit RGB image cannot be written in a format. -/
inductive WriteError where
  | noWriter (f : ImageFormat)
  /-- The format's writer takes no 8-bit RGB samples. -/
  | noRgb8 (f : ImageFormat)
  /-- The image's sides do not fit the format. -/
  | badSize (reason : String)
deriving DecidableEq, Repr

def WriteError.message : WriteError → String
  | .noWriter f => "The image format `" ++ f.name ++ "` is not supported"
  | .noRgb8 f => "The encoder or decoder for " ++ f.name ++ " does not support the color type `Rgb8`"
  | .badSize reason => "The parameter is malformed: " ++ reason

/-- A 16-bit number, least significant byte first. -/
def le16 (n : Nat) : Array UInt8 := #[n.toUInt8, (n / 256).toUInt8]

/-- A 32-bit number, least significant byte first. -/
def le32 (n : Nat) : Array UInt8 :=
  #[n.toUInt8, (n / 256).toUInt8, (n / 65536).toUInt8, (n / 16777216).toUInt8]

/-- The three samples of pixel `k` of packed RGB pixels. -/
def rgbAt (px : Array UInt8) (k : Nat) : UInt8 × UInt8 × UInt8 :=
  (px.getD (3 * k) 0, px.getD (3 * k + 1) 0, px.getD (3 * k + 2) 0)

/-! ## BMP -/

/-- A 24-bit bitmap of `w × h` packed RGB pixels, rows from the bottom up. -/
def bmp (w h : Nat) (px : Array UInt8) : Array UInt8 :=
  let pad := (4 - w * 3 % 4) % 4
  let imageSize := w * h * 3 + h * pad
  let fileHeader := #[0x42, 0x4D] ++ le32 (54 + imageSize) ++ le16 0 ++ le16 0 ++ le32 54
  let info := le32 40 ++ le32 w ++ le32 h ++ le16 1 ++ le16 24 ++ le32 0 ++ le32 imageSize ++
    le32 0 ++ le32 0 ++ le32 0 ++ le32 0
  let row (y : Nat) : Array UInt8 :=
    (List.range w).foldl (fun acc x =>
      let (r, g, b) := rgbAt px (y * w + x)
      acc ++ #[b, g, r]) #[] ++ Array.replicate pad 0
  fileHeader ++ info ++ (List.range h).reverse.foldl (fun acc y => acc ++ row y) #[]

/-! ## PAM -/

/-- A PAM file of `w × h` packed RGB pixels. -/
def pam (w h : Nat) (px : Array UInt8) : Array UInt8 :=
  ("P7\nWIDTH " ++ Nat.repr w ++ "\nHEIGHT " ++ Nat.repr h ++
    "\nDEPTH 3\nMAXVAL 255\nTUPLTYPE RGB\nENDHDR\n").toUTF8.data ++ px

/-! ## QOI -/

/-- The slot of a pixel (with its alpha) in the index of seen pixels. -/
def qoiHash (r g b a : Nat) : Nat := (r * 3 + g * 5 + b * 7 + a * 11) % 64

/-- A difference of two samples as a signed byte. -/
def signedDiff (x y : UInt8) : Int := ((x.toNat + 256 - y.toNat) % 256 : Nat) - (if (x.toNat + 256 - y.toNat) % 256 ≥ 128 then 256 else 0)

/-- The bytes for a pixel that is neither the previous one nor in the index: a small difference
from the previous pixel, a difference relative to the green one, or the samples themselves. -/
def qoiDelta (p q : UInt8 × UInt8 × UInt8) : Array UInt8 :=
  let (r, g, b) := p
  let dr := signedDiff r q.1
  let dg := signedDiff g q.2.1
  let db := signedDiff b q.2.2
  if -2 ≤ dr ∧ dr ≤ 1 ∧ -2 ≤ dg ∧ dg ≤ 1 ∧ -2 ≤ db ∧ db ≤ 1 then
    #[(0x40 + (dr + 2).toNat * 16 + (dg + 2).toNat * 4 + (db + 2).toNat).toUInt8]
  else if -32 ≤ dg ∧ dg ≤ 31 ∧ -8 ≤ dr - dg ∧ dr - dg ≤ 7 ∧ -8 ≤ db - dg ∧ db - dg ≤ 7 then
    #[(0x80 + (dg + 32).toNat).toUInt8, ((dr - dg + 8).toNat * 16 + (db - dg + 8).toNat).toUInt8]
  else #[0xFE, r, g, b]

/-- Where a QOI writer stands: the previous pixel, the index of seen pixels, the length of the
current run, whether a pixel has been indexed yet, the slot of the previous pixel, and the
bytes so far. -/
structure QoiState where
  prev : UInt8 × UInt8 × UInt8
  index : Array (Nat × Nat × Nat × Nat)
  run : Nat
  indexed : Bool
  prevSlot : Nat
  out : Array UInt8

/-- Writes pixel number `k` of `n`. A run ends at 62 pixels or at the last pixel; a run of one
pixel after an indexed pixel is written as that pixel's index. -/
def QoiState.step (n : Nat) (s : QoiState) (k : Nat) (p : UInt8 × UInt8 × UInt8) : QoiState :=
  if p = s.prev then
    let run := s.run + 1
    if run = 62 ∨ k + 1 = n then { s with run := 0, out := s.out.push (0xC0 + (run - 1)).toUInt8 }
    else { s with run := run }
  else
    let out :=
      if s.run = 0 then s.out
      else if s.run = 1 ∧ s.indexed then s.out.push s.prevSlot.toUInt8
      else s.out.push (0xC0 + (s.run - 1)).toUInt8
    let (r, g, b) := p
    let entry := (r.toNat, g.toNat, b.toNat, 255)
    let slot := qoiHash r.toNat g.toNat b.toNat 255
    let (index, out) :=
      if s.index.getD slot (0, 0, 0, 0) = entry then (s.index, out.push slot.toUInt8)
      else (s.index.set! slot entry, out ++ qoiDelta p s.prev)
    ⟨p, index, 0, true, slot, out⟩

/-- A QOI file of `w × h` packed RGB pixels. -/
def qoi (w h : Nat) (px : Array UInt8) : Array UInt8 :=
  let n := w * h
  let start : QoiState := ⟨(0, 0, 0), Array.replicate 64 (0, 0, 0, 0), 0, false, 0, #[]⟩
  let done := (List.range n).foldl (fun s k => s.step n k (rgbAt px k)) start
  "qoif".toUTF8.data ++ Deflate.be32 w.toUInt32 ++ Deflate.be32 h.toUInt32 ++ #[3, 0] ++ done.out ++
    #[0, 0, 0, 0, 0, 0, 0, 1]

/-! ## TGA -/

/-- Where a run-length writer stands: pixels gathered for the next packet, their number,
whether the packet repeats one pixel, the previous pixel, and the bytes so far. -/
structure RleState where
  pending : Array UInt8
  count : Nat
  repeating : Bool
  prev : Option (Array UInt8)
  out : Array UInt8

/-- A packet repeating one pixel `count` times. -/
def repeatPacket (p : Array UInt8) (count : Nat) : Array UInt8 := #[(0x80 + (count - 1)).toUInt8] ++ p

/-- A packet of `count` pixels given one by one. -/
def literalPacket (ps : Array UInt8) (count : Nat) : Array UInt8 := #[(count - 1).toUInt8] ++ ps

/-- The packet of the pixels gathered so far. -/
def RleState.packet (s : RleState) : Array UInt8 :=
  if s.repeating then repeatPacket (s.prev.getD #[]) s.count else literalPacket s.pending s.count

/-- Takes in one pixel: a pixel equal to the previous one ends a literal packet and continues a
repeat; a different one ends a repeat. A packet holds at most 128 pixels. -/
def RleState.step (s : RleState) (p : Array UInt8) : RleState :=
  let s := match s.prev with
    | some q =>
      if p = q then
        if !s.repeating ∧ s.count > 0 then
          { s with out := s.out ++ literalPacket s.pending s.count, count := 0, pending := #[],
                   repeating := true }
        else { s with repeating := true }
      else if s.repeating ∧ s.count > 0 then
        { s with out := s.out ++ repeatPacket q s.count, count := 0, repeating := false,
                 pending := #[] }
      else s
    | none => s
  let s := { s with count := s.count + 1, pending := s.pending ++ p }
  let s := if s.count = 128 then
      { s with out := s.out ++ s.packet, count := 0, repeating := true, pending := #[] }
    else s
  { s with prev := some p }

/-- A run-length encoded true-colour TGA file of `w × h` packed RGB pixels. -/
def tga (w h : Nat) (px : Array UInt8) : Array UInt8 :=
  let header := #[0, 0, 10] ++ le16 0 ++ le16 0 ++ #[0] ++ le16 0 ++ le16 0 ++ le16 w ++ le16 h ++
    #[24, 0x20]
  let start : RleState := ⟨#[], 0, true, none, #[]⟩
  let done := (List.range (w * h)).foldl (fun s k =>
    let (r, g, b) := rgbAt px k
    s.step #[b, g, r]) start
  header ++ done.out ++ (if done.count > 0 then done.packet else #[])

/-! ## ICO -/

/-- An icon file holding one image, `w × h` packed RGB pixels stored as PNG: the directory of one
entry, giving the sides (256 as `0`), 24 bits per pixel, the PNG's size and its offset 22, then
the PNG. An icon's sides are `1` to `256` pixels. -/
def ico (w h : Nat) (px : Array UInt8) : Except WriteError (Array UInt8) :=
  let png := Png.encode w h 3 px
  if w = 0 ∨ w > 256 then
    .error (.badSize ("the image width must be `1..=256`, instead width " ++ Nat.repr w ++
      " was provided"))
  else if h = 0 ∨ h > 256 then
    .error (.badSize ("the image height must be `1..=256`, instead height " ++ Nat.repr h ++
      " was provided"))
  else
    .ok (le16 0 ++ le16 1 ++ le16 1 ++ #[w.toUInt8, h.toUInt8, 0, 0] ++ le16 0 ++ le16 24 ++
      le32 png.size ++ le32 22 ++ png)

/-! ## Choosing the writer -/

/-- The file holding a `w × h` image of packed 8-bit RGB pixels in a format. -/
def encodeRgb (f : ImageFormat) (w h : Nat) (px : Array UInt8) : Except WriteError (Array UInt8) :=
  match f with
  | .bmp => .ok (bmp w h px)
  | .pnm => .ok (pam w h px)
  | .qoi => .ok (qoi w h px)
  | .tga => .ok (tga w h px)
  | .dds => .error (.noWriter f)
  | .hdr | .openExr | .farbfeld => .error (.noRgb8 f)
  | .ico => ico w h px
  | .jpeg => .ok (Jpeg.encode w h px)
  | .gif => .ok (Gif.encode w h px)
  | .tiff => .ok (Tiff.encode w h px)
  | .webp => .ok (WebP.encode w h px)
  | .png | .avif => .ok (Png.encode w h 3 px)

end CameraOverlay.ImageFile
