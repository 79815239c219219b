import CameraOverlay.Frame
/-!
# Unchecked planes and the NV12 byte stream

`Planes` is a pair of planes with the dimensions they claim, before anyone has checked that they
fit: a uniform fill of any dimensions is one, and so is a byte stream split at the end of its
luma plane. `Planes.toFrame?` runs the checks of `Frame.ofPlanes?`.

The byte stream is the luma plane followed by the chroma plane. Reading one checks the
dimensions first and then that the stream holds exactly `w * h + w * h / 2` bytes; writing
one concatenates the planes, so a stream that reads back writes back unchanged.

The expected length is counted in a 64-bit machine word. For dimensions whose planes together
hold `2 ^ 64` bytes or more the count wraps around, so a short stream of the wrapped length
passes the check; cutting the luma plane out of it then runs past its end, and the program
stops there (`StreamError.lumaPastEnd`).
-/

namespace CameraOverlay

/-- The number of values of a 64-bit machine word: byte counts wrap around past it. -/
def wordModulus : Nat := 18446744073709551616

/-- Why a byte stream does not split into planes. -/
inductive StreamError where
  /-- The dimensions or the stream's length are refused, with this error. -/
  | refused (e : FrameError)
  /-- The luma plane of `lumaLen` bytes would end past the end of the stream of `size` bytes:
  taking it stops the program. -/
  | lumaPastEnd (lumaLen size : Nat)
deriving Repr, DecidableEq

/-- Two planes and the dimensions they claim, not yet checked against each other. -/
structure Planes where
  width : Nat
  height : Nat
  luma : Array UInt8
  chroma : Array UInt8
deriving Repr, DecidableEq

namespace Planes

/-- A uniform picture: every luma byte is `y`, every chroma byte `c`. The chroma plane holds
`w * h / 2` bytes whatever the dimensions. -/
def filled (width height : Nat) (y c : UInt8) : Planes :=
  ⟨width, height, Array.replicate (width * height) y, Array.replicate (width * height / 2) c⟩

/-- The stream length the reader expects for these dimensions, `w * h + w * h / 2` counted in
a 64-bit word. -/
def streamSize (width height : Nat) : Nat :=
  (width * height + width * height / 2) % wordModulus

/-- Splits a byte stream into its two planes. The dimensions are checked first, then the
stream's length against `streamSize`; the luma plane is the first `w * h` bytes and the chroma
plane the rest. -/
def ofStream? (data : Array UInt8) (width height : Nat) : Except StreamError Planes :=
  if EvenDims width height then
    let lumaLen := width * height
    let total := streamSize width height
    if data.size = total then
      if lumaLen ≤ data.size then
        .ok ⟨width, height, data.extract 0 lumaLen, data.extract lumaLen data.size⟩
      else .error (.lumaPastEnd lumaLen data.size)
    else .error (.refused (.streamLength total data.size))
  else .error (.refused (.dimensions width height))

/-- The byte stream: luma plane, then chroma plane. -/
def toStream (p : Planes) : Array UInt8 := p.luma ++ p.chroma

/-- The planes as a frame, if they fit their dimensions. -/
def toFrame? (p : Planes) : Except FrameError Frame :=
  Frame.ofPlanes? p.width p.height p.luma p.chroma

end Planes

/-- A frame's planes, forgetting that they fit. -/
def Frame.toPlanes (f : Frame) : Planes := ⟨f.width, f.height, f.luma, f.chroma⟩

end CameraOverlay
