/-!
# File paths

Paths are text with `/` between components. Joining a relative path to a directory puts a
separator between them unless the directory already ends in one; joining an absolute path
replaces the directory. A path's file name is its last component once empty and `.` components
are dropped, and there is none when that component is `..` or when no component is left. A
file name's extension is what follows its last `.`, unless that `.` is its first character.
-/

namespace CameraOverlay.Path

def isAbsolute (p : String) : Bool := p.startsWith "/"

def join (dir p : String) : String :=
  if isAbsolute p then p
  else if dir.isEmpty || dir.endsWith "/" then dir ++ p
  else dir ++ "/" ++ p

/-- The components of a path, without empty and `.` components. -/
def components (p : String) : List String :=
  (p.splitOn "/").filter fun c => c ≠ "" ∧ c ≠ "."

/-- The last component of a path, if it is a name. -/
def fileName? (p : String) : Option String :=
  match (components p).getLast? with
  | some ".." => none
  | some c => some c
  | none => none

/-- The extension of a path's file name: the text after its last `.`, if that `.` does not
start the name. A name ending in `.` has the empty extension. -/
def extension? (p : String) : Option String :=
  match fileName? p with
  | none => none
  | some name =>
    match (name.splitOn ".").reverse with
    | [] | [_] => none
    | after :: before => if before.reverse = [""] then none else some after

/-- The components of a path with each `..` taking back the component before it. -/
def normalize (p : String) : List String :=
  (components p).foldl (fun acc c => if c = ".." then acc.dropLast else acc ++ [c]) []

end CameraOverlay.Path
