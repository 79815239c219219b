import CameraOverlay.Cli.Run
/-!
# The command

The executable: the command's logic (`Cli.run`) over the real file system. Failures of file
operations are worded as the operating system words them, `<description> (os error <code>)`.
-/

namespace CameraOverlay.Cli

/-- A failed file operation as the command reports it. -/
def osError : IO.Error → IoError
  | .noFileOrDirectory _ _ _ => .notFound
  | .inappropriateType _ 21 _ => .isDirectory
  | .inappropriateType _ 20 _ => .notDirectory
  | .inappropriateType _ c d | .permissionDenied _ c d | .alreadyExists _ c d
  | .invalidArgument _ c d | .resourceExhausted _ c d | .noSuchThing _ c d
  | .interrupted _ c d => .other (d ++ s!" (os error {c})")
  | .otherError c d | .resourceBusy c d | .resourceVanished c d | .unsupportedOperation c d
  | .hardwareFault c d | .unsatisfiedConstraints c d | .illegalOperation c d
  | .protocolError c d | .timeExpired c d => .other (d ++ s!" (os error {c})")
  | e => .other (toString e)

/-- The command's operations on the real file system. -/
def ioHost : Host IO where
  pathExists p := do
    match ← (IO.FS.Handle.mk p .read).toBaseIO with
    | .ok _ => return true
    | .error (.noFileOrDirectory _ _ _) => return false
    | .error (.inappropriateType _ 20 _) => return false
    | .error _ => return true
  readFile p := do
    match ← (IO.FS.readBinFile p).toBaseIO with
    | .ok b => return .ok b.data
    | .error e => return .error (osError e)
  writeFile p d := do
    match ← (IO.FS.writeBinFile p (ByteArray.mk d)).toBaseIO with
    | .ok () => return .ok ()
    | .error e => return .error (osError e)

end CameraOverlay.Cli

/-- Runs the command on the process's arguments and ends with its status. -/
def main (args : List String) : IO UInt32 := do
  let out ← CameraOverlay.Cli.run CameraOverlay.Cli.ioHost args
  IO.print out.stdout
  IO.eprint out.stderr
  return out.exit.toUInt32
