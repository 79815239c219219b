import CameraOverlay.Json.Reader
import CameraOverlay.Config
/-!
# The settings file

A settings file is a JSON object whose members set pipeline settings by name:
`detection_interval` and `gesture_interval` (unsigned 64-bit), `head_turn_divisor` and
`mouth_open_divisor` (signed 32-bit) and `marker_size` (unsigned 32-bit). A setting that is not
given keeps its default; other members are read through and ignored; a setting given twice is
an error. An array of up to five values sets the settings in that order instead.
-/

namespace CameraOverlay

namespace Settings

open Json Json.Reader

structure Given where
  detectionInterval : Option Nat := none
  gestureInterval : Option Nat := none
  headTurnDivisor : Option Int32 := none
  mouthOpenDivisor : Option Int32 := none
  markerSize : Option Nat := none

/-- The configuration of the given settings, defaults for the rest. -/
def Given.config (g : Given) : Config :=
  { detectionInterval := g.detectionInterval.getD 1
    gestureInterval := g.gestureInterval.getD 9
    headTurnDivisor := g.headTurnDivisor.getD 12
    mouthOpenDivisor := g.mouthOpenDivisor.getD 6
    markerSize := g.markerSize.getD 4 }

/-- Reads a setting that may be given once: `seen` says whether it was given before. -/
def once (seen : Bool) (name : String) (r : Reader α) : Reader α := do
  if seen then failShape (.duplicateField name)
  colon
  r

/-- Reads one member of a settings object, from after its key. -/
def member (g : Given) (k : String) : Reader Given :=
  if k == "detection_interval" then
    once g.detectionInterval.isSome k do
      return { g with detectionInterval := some (← integer .usize).toNat }
  else if k == "gesture_interval" then
    once g.gestureInterval.isSome k do
      return { g with gestureInterval := some (← integer .usize).toNat }
  else if k == "head_turn_divisor" then
    once g.headTurnDivisor.isSome k do
      return { g with headTurnDivisor := some (Int32.ofInt (← integer .i32)) }
  else if k == "mouth_open_divisor" then
    once g.mouthOpenDivisor.isSome k do
      return { g with mouthOpenDivisor := some (Int32.ofInt (← integer .i32)) }
  else if k == "marker_size" then
    once g.markerSize.isSome k do
      return { g with markerSize := some (← integer .u32).toNat }
  else do
    colon
    skipValue
    return g

/-- Reads the next element of a settings array, if one follows. -/
def element (first : Bool) (r : Reader α) : Reader (Option α) := do
  if ← elementFollows first then return some (← r) else return none

/-- Reads the settings given as an array, in field order. -/
def positional : Reader Given := do
  let detectionInterval ← element true (Int.toNat <$> integer .usize)
  let gestureInterval ← element false (Int.toNat <$> integer .usize)
  let headTurnDivisor ← element false (Int32.ofInt <$> integer .i32)
  let mouthOpenDivisor ← element false (Int32.ofInt <$> integer .i32)
  let markerSize ← element false (Int.toNat <$> integer .u32)
  return { detectionInterval, gestureInterval, headTurnDivisor, mouthOpenDivisor, markerSize }

def reader : Reader Config :=
  document (Given.config <$> structured 128 "struct Settings" positional (members member {}))

/-- Reads settings from the bytes of a text. -/
def parseBytes (input : Input) : Except ReadError Config := (reader.run' input).1

/-- Reads settings from a text; on failure, the error with its message. -/
def parse (text : String) : Except (ErrorClass × String) Config :=
  let input := text.toUTF8.data
  match parseBytes input with
  | .ok c => .ok c
  | .error e => .error (e.errorClass, e.render input)

end Settings

end CameraOverlay
