import CameraOverlay.Cli.Host
import CameraOverlay.Path
/-!
# A file system in memory

Files held in memory, by path: a path is the list of its components, starting with `/` for an
absolute path; a relative path starts in the working directory. The directories are the root,
the working directory, and every directory that holds a file.

A path is looked up component by component, as the operating system does. Each component is
looked up in a directory, so everything before it must be an existing directory: a file there
is "not a directory", a missing one "not found". An empty component (from `//` or a trailing
`/`) and `.` stay where they are, and `..` steps back out; a path that ends in one of them
names a directory. Creating a file at a path with a trailing `/` is refused as "is a
directory", unless a file is there.
-/

namespace CameraOverlay.Cli

/-- Files in memory: their bytes by path. -/
structure MemoryFs where
  files : List (List String × Array UInt8)

namespace MemoryFs

variable (fs : MemoryFs)

/-- The bytes of the file at a resolved path. -/
def file? (path : List String) : Option (Array UInt8) := fs.files.lookup path

/-- Whether a resolved path is a directory: the root, the working directory, or a directory
holding a file. -/
def isDir (path : List String) : Bool :=
  path = [] || path = ["/"] || fs.files.any fun (k, _) => path.isPrefixOf k && path.length < k.length

/-- The directory that holds `cur`; the root and the working directory stay. -/
def parent (cur : List String) : List String :=
  if cur = [] || cur = ["/"] then cur else cur.dropLast

/-- Looks up the components of a path from the directory `cur`: answers what the path names,
and whether the path asks for a directory (its last component is empty, `.` or `..`). -/
def walk : List String → List String → Except IoError (List String × Bool)
  | cur, [] => .ok (cur, true)
  | cur, c :: rest =>
    if !fs.isDir cur then .error (if (fs.file? cur).isSome then .notDirectory else .notFound)
    else
      let next := if c = "" || c = "." then cur else if c = ".." then parent cur else cur ++ [c]
      match rest with
      | [] => .ok (next, c = "" || c = "." || c = "..")
      | _ => walk next rest

/-- Looks up a path: from the root if it is absolute, else from the working directory. -/
def resolve (p : String) : Except IoError (List String × Bool) :=
  if Path.isAbsolute p then fs.walk ["/"] (p.splitOn "/").tail else fs.walk [] (p.splitOn "/")

/-- Whether a file or a directory is at the path. -/
def pathExists (p : String) : Bool :=
  match fs.resolve p with
  | .ok (k, _) => fs.isDir k || (fs.file? k).isSome
  | .error _ => false

/-- The bytes of the file at the path. -/
def readFile (p : String) : Except IoError (Array UInt8) := do
  let (k, _) ← fs.resolve p
  match fs.file? k with
  | some d => return d
  | none => throw (if fs.isDir k then .isDirectory else .notFound)

/-- Puts a file at the path, replacing one that is there. -/
def writeFile (p : String) (d : Array UInt8) : Except IoError MemoryFs := do
  if p.endsWith "/" then
    let (k, _) ← fs.resolve ((p.dropEndWhile '/').toString)
    throw (if (fs.file? k).isSome then .notDirectory else .isDirectory)
  let (k, _) ← fs.resolve p
  if fs.isDir k then throw .isDirectory
  return ⟨(fs.files.filter (·.1 != k)) ++ [(k, d)]⟩

end MemoryFs

/-- The command's operations on a file system in memory. -/
def MemoryFs.host : Host (StateM MemoryFs) where
  pathExists p := return (← get).pathExists p
  readFile p := return (← get).readFile p
  writeFile p d := do
    match (← get).writeFile p d with
    | .ok fs => set fs; return .ok ()
    | .error e => return .error e

end CameraOverlay.Cli
