/-!
# What the command needs from its surroundings

The command touches its surroundings only through a `Host`: whether a path exists, and reading
and writing files as bytes. The operations run in any monad, so the command runs against the real
file system in `IO` and against a file system held in memory in a state monad, with one and the
same logic.

Failures of file operations are worded as the operating system words them.
-/

namespace CameraOverlay.Cli

inductive IoError where
  | notFound
  | isDirectory
  | notDirectory
  /-- Text was wanted, and the file is not UTF-8. -/
  | invalidUtf8
  | other (message : String)
deriving DecidableEq, Repr

/-- The error as the operating system reports it. -/
def IoError.message : IoError → String
  | .notFound => "No such file or directory (os error 2)"
  | .isDirectory => "Is a directory (os error 21)"
  | .notDirectory => "Not a directory (os error 20)"
  | .invalidUtf8 => "stream did not contain valid UTF-8"
  | .other m => m

/-- The file operations the command uses, in a monad `m`. -/
structure Host (m : Type → Type) where
  /-- Whether a file or a directory is at the path. -/
  pathExists : String → m Bool
  /-- The bytes of the file at the path. -/
  readFile : String → m (Except IoError (Array UInt8))
  /-- Creates or replaces the file at the path. -/
  writeFile : String → Array UInt8 → m (Except IoError Unit)

/-- The text of the file at the path; bytes that are not UTF-8 are an error. -/
def Host.readText [Monad m] (h : Host m) (path : String) : m (Except IoError String) := do
  match ← h.readFile path with
  | .ok bytes =>
    match String.fromUTF8? (ByteArray.mk bytes) with
    | some text => return .ok text
    | none => return .error .invalidUtf8
  | .error e => return .error e

end CameraOverlay.Cli
