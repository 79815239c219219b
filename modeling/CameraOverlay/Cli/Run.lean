import CameraOverlay.Cli.Options
import CameraOverlay.Cli.Host
import CameraOverlay.Text.Lowercase
import CameraOverlay.Frame.Planes
import CameraOverlay.Frame.Format
import CameraOverlay.Settings
import CameraOverlay.Detections
import CameraOverlay.Pipeline
import CameraOverlay.Image.PngRead
import CameraOverlay.Preview
import CameraOverlay.Path
import CameraOverlay.Image.Formats
/-!
# Running the command

The command processes one raw NV12 frame the way a camera preview would, holding still for a
number of frames, and writes the last processed frame. In order it:

1. checks that the input exists, that the dimensions are even and non-zero, that a sticker and
   a filter are not both asked for, and that at least one frame is run;
2. reads the format name in lower case;
3. reads the settings file, if one is given;
4. reads the frame and splits it into its planes;
5. loads the sticker images, if a directory is given, and the detections file, if one is given;
   a sticker image is a PNG file, and one that cannot be read leaves its slot empty; readable
   detections make stickers available, and unreadable ones stop the run;
6. presses the filter button, then the sticker button, as often as asked, and switches motion
   mode on if asked;
7. runs the frames, each a fresh copy of the source, through a detector that answers the
   detected faces on every `detection_interval`-th call; a format that cannot be composited
   stops the run after the first frame;
8. writes the last frame, and its preview if asked; the preview's image format is named by its
   file's extension, and a path without a known one fails before the file is made. The file is
   made before the image is encoded, so a format that cannot hold the preview leaves it empty.

A failure prints `Error: ` and its message and ends the run with status `1`; a bad command line
prints the parser's report and ends with status `2`. A stream whose luma plane runs past its end
(`StreamError.lumaPastEnd`) stops the process at once: it prints the fault's report and ends as
an aborted process does, with status `134`.
-/

namespace CameraOverlay.Cli

/-- What a run printed and how it ended. -/
structure Outcome where
  exit : Nat
  stdout : String
  stderr : String
deriving DecidableEq, Repr

/-- A run that ended well and printed nothing. -/
def Outcome.success : Outcome := ⟨0, "", ""⟩

def Outcome.failure (msg : String) : Outcome := ⟨1, "", "Error: " ++ msg ++ "\n"⟩

/-- A run that a fault ended at once, with the fault's report. -/
def Outcome.aborted (report : String) : Outcome := ⟨134, "", report⟩

/-- How a run stops early: with a message printed as an error, or by a fault that ends the
process at once. -/
inductive Stop where
  | message (text : String)
  | fault (report : String)

/-- The report of cutting a luma plane of `lumaLen` bytes out of a stream of `size` bytes. -/
def lumaPastEndReport (lumaLen size : Nat) : String :=
  "thread 'main' panicked at crates/core/src/shared/frame.rs:164:19:\n" ++
  s!"range end index {lumaLen} out of range for slice of length {size}\n" ++
  "note: run with `RUST_BACKTRACE=1` environment variable to display a backtrace\n"

/-- The checks made before anything is read: the input exists, the dimensions are even and
non-zero, a sticker and a filter are not both pressed, and at least one frame is run. -/
def validate (o : Options) (inputExists : Bool) : Except String Unit := do
  if !inputExists then throw ("Input file not found: " ++ o.input)
  if o.width = 0 ∨ o.height = 0 ∨ o.width % 2 ≠ 0 ∨ o.height % 2 ≠ 0 then
    throw s!"Frame dimensions must be even and non-zero, got {o.width}x{o.height}"
  if o.sticker > 0 ∧ o.filter > 0 then throw "--sticker and --filter are mutually exclusive"
  if o.frames = 0 then throw "--frames must be at least 1"

/-- The format with the name, matched in lower case. -/
def formatOf (name : String) : Except String PixelFormat :=
  let lower := Text.lowercase name
  match PixelFormat.ofName? lower with
  | some f => .ok f
  | none => .error ("Unknown pixel format '" ++ lower ++ "'")

/-- Takes the error of a step as a message. -/
def orMessage [Monad m] (r : Except ε α) (message : ε → String) : ExceptT Stop m α :=
  match r with
  | .ok a => pure a
  | .error e => throw (.message (message e))

variable [Monad m] (h : Host m)

def loadConfig (path : String) : ExceptT Stop m Config := do
  match ← h.readText path with
  | .error e => throw (.message ("Cannot read settings " ++ path ++ ": " ++ e.message))
  | .ok text => orMessage (Settings.parse text) (·.2)

def loadFrame (o : Options) : ExceptT Stop m Frame := do
  let data ← match ← h.readFile o.input with
    | .error e => throw (.message ("Cannot read frame " ++ o.input ++ ": " ++ e.message))
    | .ok d => pure d
  let planes ← match Planes.ofStream? data o.width o.height with
    | .ok p => pure p
    | .error (.refused e) => throw (.message e.message)
    | .error (.lumaPastEnd lumaLen size) => throw (.fault (lumaPastEndReport lumaLen size))
  orMessage planes.toFrame? FrameError.message

/-- The sticker image in the PNG file at the path. -/
def loadSprite (path : String) : m (Except AssetError Sprite) := do
  match ← h.readFile path with
  | .ok bytes =>
    match Png.decode bytes with
    | .ok img => return img.toSprite?
    | .error _ => return .error (.undecodable path)
  | .error _ => return .error (.undecodable path)

/-- The faces of the detections file, or `none` when it cannot be read or used. -/
def loadFaces (path : String) (height : Nat) : m (Option (List Face)) := do
  match ← h.readText path with
  | .error _ => return none
  | .ok text =>
    match Detections.parse text height with
    | .ok faces => return some faces
    | .error _ => return none

/-- Presses the filter button `o.filter` times, then the sticker button `o.sticker` times, then
the motion button if `o.motion`. -/
def pressButtons (o : Options) (s : Session) : Session :=
  let s := Nat.repeat (fun s => s.advanceFilter.2) o.filter s
  let s := Nat.repeat (fun s => s.advanceSticker.2) o.sticker s
  if o.motion then s.toggleMotion.2 else s

/-- Runs `n` copies of the source frame through the pipeline and answers the last processed
frame; a frame in a format that cannot be composited stops the run. -/
def runFrames (overlay : Overlay) (source : Frame) (format : PixelFormat) (d : Detect σ) :
    Nat → Session → σ → Frame → Except String Frame
  | 0, _, _, last => .ok last
  | n + 1, s, ds, _ =>
    let r := overlay.process s source format d ds
    match r.applied with
    | .rejected => .error ("Frame format " ++ format.title ++ " is not supported")
    | _ => runFrames overlay source format d n r.session r.detector r.frame

/-- Everything after the command line is read. -/
def execute (o : Options) : ExceptT Stop m Unit := do
  orMessage (validate o (← h.pathExists o.input)) id
  let format ← orMessage (formatOf o.format) id
  let config ← match o.settings with
    | some path => loadConfig h path
    | none => pure {}
  let source ← loadFrame h o
  let assets ← match o.stickers with
    | some dir => liftM (AssetStore.load (loadSprite h) dir assetFiles)
    | none => pure AssetStore.empty
  let (faces, ready) ← match o.detections with
    | some path =>
      match ← liftM (loadFaces h path o.height) with
      | some faces => pure (faces, true)
      | none => throw (.message "Detections could not be loaded; see log for details")
    | none => pure ([], false)
  let session := pressButtons o (Session.new ready config)
  let detector ← orMessage (Cadence.new? config.detectionInterval (Replay.fixed faces))
    CadenceError.message
  let result ← orMessage (runFrames (Overlay.new assets config) source format
    (Cadence.detect Replay.detect) o.frames session detector source) id
  match ← liftM (h.writeFile o.output result.toPlanes.toStream) with
  | .error e => throw (.message e.message)
  | .ok () => pure ()
  match o.png with
  | some path =>
    let imageFormat ← orMessage (ImageFile.formatOfPath path) id
    match ← liftM (h.writeFile path #[]) with
    | .error e => throw (.message e.message)
    | .ok () => pure ()
    let p := result.preview
    let bytes ← orMessage (ImageFile.encodeRgb imageFormat p.width p.height p.bytes)
      ImageFile.WriteError.message
    match ← liftM (h.writeFile path bytes) with
    | .error e => throw (.message e.message)
    | .ok () => pure ()
  | none => pure ()
where
  liftM {α : Type} (x : m α) : ExceptT Stop m α := ExceptT.lift x

def run (args : List String) : m Outcome := do
  match request args with
  | .error e => return ⟨2, "", e.text⟩
  | .ok .help => return ⟨0, helpText, ""⟩
  | .ok (.run given) =>
    match ← (execute h (Options.ofGiven given)).run with
    | .ok () => return .success
    | .error (.message msg) => return .failure msg
    | .error (.fault report) => return .aborted report

end CameraOverlay.Cli
