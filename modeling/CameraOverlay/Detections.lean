import CameraOverlay.Json.Reader
import CameraOverlay.Face.Basic
/-!
# The detections file

A detections file is a JSON array of faces. Each face is an object with a `rect` and, optionally,
`landmarks`: `null`, or an array of `[x, y]` pairs of signed 32-bit integers that must number
exactly 68 (`Landmarks.ofPoints?`). A face may also be an array `[rect, landmarks]`.

A `rect` is read as a JSON value of any shape first, and only then matched: an object whose keys
`top`, `bottom`, `left` and `right` each occur once with a signed 32-bit integer is a box in frame
orientation; failing that, one with `x`, `y`, `width` and `height` is a box from the sensor,
turned into frame orientation against the frame height (`FaceRect.ofSensor`). Other keys do not
matter.
-/

namespace CameraOverlay

namespace Detections

open Json Json.Reader

/-- A face box as the file gives it. -/
inductive RectShape where
  /-- Already in frame orientation. -/
  | frame (r : FaceRect)
  /-- As the sensor reports it. -/
  | sensor (x y width height : Int32)

structure Entry where
  rect : RectShape
  landmarks : Option (List (Int32 × Int32))

/-- The value as a signed 32-bit integer, if it is one. -/
def int32? : Value → Option Int32
  | .number (.unsigned n) => if n < 2147483648 then some (Int32.ofNat n) else none
  | .number (.signed n) => if -2147483648 ≤ n then some (Int32.ofInt n) else none
  | _ => none

/-- The one member named `k`, as a signed 32-bit integer; `none` when it is missing, repeated or
not such an integer. -/
def single (entries : List (String × Value)) (k : String) : Option Int32 :=
  match entries.filter (·.1 == k) with
  | [(_, v)] => int32? v
  | _ => none

/-- Matches a value against the two shapes of a box, frame orientation first. -/
def rectShape? : Value → Option RectShape
  | .object es =>
    match single es "top", single es "bottom", single es "left", single es "right" with
    | some top, some bottom, some left, some right => some (.frame ⟨top, bottom, left, right⟩)
    | _, _, _, _ =>
      match single es "x", single es "y", single es "width", single es "height" with
      | some x, some y, some w, some h => some (.sensor x y w h)
      | _, _, _, _ => none
  | _ => none

/-- Reads a box: a whole value first, then its shape. -/
def rect (depth : Nat) : Reader RectShape := do
  match rectShape? (← anyValue depth) with
  | some r => pure r
  | none => failShape (.noAlternative "RectDto")

def pairName : String := "an array of length 2"

def pair (depth : Nat) : Reader (Int32 × Int32) :=
  sequence depth pairName do
    if !(← elementFollows true) then failShape (.invalidLength 0 pairName)
    let x ← integer .i32
    if !(← elementFollows false) then failShape (.invalidLength 1 pairName)
    let y ← integer .i32
    return (Int32.ofInt x, Int32.ofInt y)

/-- Reads the landmarks of a face: `null`, or an array of pairs. -/
def landmarks (depth : Nat) : Reader (Option (List (Int32 × Int32))) := do
  match ← skipBlanks with
  | some 110 => do bump; keyword (bytesOf "ull"); pure none
  | _ => some <$> sequence depth "a sequence" (elements (pair (depth - 1)))

/-- What a face object has given so far. -/
structure Given where
  rect : Option RectShape := none
  landmarks : Option (Option (List (Int32 × Int32))) := none

def faceName : String := "struct FaceDto"

/-- Reads a face, as an object or as an array. -/
def face (depth : Nat) : Reader Entry :=
  structured depth faceName
    (do
      if !(← elementFollows true) then failShape (.invalidLength 0 "struct FaceDto with 2 elements")
      let r ← rect (depth - 1)
      let l ← if ← elementFollows false then landmarks (depth - 1) else pure none
      return ⟨r, l⟩)
    (do
      let step (g : Given) (k : String) : Reader Given :=
        if k == "rect" then do
          if g.rect.isSome then failShape (.duplicateField k)
          colon
          return { g with rect := some (← rect (depth - 1)) }
        else if k == "landmarks" then do
          if g.landmarks.isSome then failShape (.duplicateField k)
          colon
          return { g with landmarks := some (← landmarks (depth - 1)) }
        else do
          colon
          skipValue
          return g
      let g ← members step {}
      match g.rect with
      | some r => return ⟨r, g.landmarks.getD none⟩
      | none => failShape (.missingField "rect"))

def reader : Reader (List Entry) := document (sequence 128 "a sequence" (elements (face 127)))

inductive DetectionsError where
  | json (e : ReadError)
  | landmarks (e : LandmarkError)

/-- The face an entry describes, against the frame height. -/
def Entry.toFace (frameHeight : Int32) (e : Entry) : Except LandmarkError Face := do
  let rect := match e.rect with
    | .frame r => r
    | .sensor x y w h => FaceRect.ofSensor x y w h frameHeight
  let landmarks ← match e.landmarks with
    | some ps => some <$> Landmarks.ofPoints? (ps.map fun (x, y) => Point.mk x y).toArray
    | none => pure none
  return ⟨rect, landmarks⟩

/-- Reads the faces of a detections text, for a frame of the given height; the height is
taken modulo `2 ^ 32` as a signed 32-bit integer. -/
def parse (text : String) (frameHeight : Nat) : Except DetectionsError (List Face) :=
  match (reader.run' text.toUTF8.data).1 with
  | .error e => .error (.json e)
  | .ok entries =>
    match entries.mapM (Entry.toFace (Int32.ofInt frameHeight)) with
    | .ok faces => .ok faces
    | .error e => .error (.landmarks e)

end Detections

end CameraOverlay
