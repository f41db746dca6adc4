import MachiningViewer.CommandLine.File
import MachiningViewer.Text.Utf8

/-!
# Files of a scenario

The files below the directory in which the program runs. Only they are known: nothing outside can be
read or written.
-/

namespace MachiningViewer.Scenario

open CommandLine (FileFault)

/-- The files with their contents. The names on the way to a file are those of directories. -/
abbrev Files := List (List String × List UInt8)

/-- Where a path leads. -/
inductive Place where
  | directory
  | file (names : List String) (bytes : List UInt8)
  /-- There is nothing yet, but there may be a file. -/
  | free (names : List String)
  /-- The path asks for a directory, but there is none, for the given cause. -/
  | noDirectory (cause : FileFault)
  deriving Repr

namespace Files

/-- Is there a directory of this name? -/
def hasDirectory (fs : Files) (names : List String) : Bool :=
  fs.any fun (file, _) => names.isPrefixOf file && names.length < file.length

/-- The names of a path with slashes between them. -/
def namesOf (path : String) : List String :=
  (path.toList.splitOn '/').map String.ofList

/-- Where names lead from a directory, which is outside of what is known if there is none. -/
def walk (fs : Files) (here : Option (List String)) : List String → Except FileFault Place
  | [] => .ok .directory
  | name :: rest =>
    if name = "" ∨ name = "." then walk fs here rest
    else if name = ".." then
      walk fs (here.bind fun names => if names.isEmpty then none else some names.dropLast) rest
    else
      let stop (cause : FileFault) : Except FileFault Place :=
        if rest ≠ [] ∧ rest.all (·.isEmpty) then .ok (.noDirectory cause) else .error cause
      if 255 < name.utf8ByteSize then stop .nameTooLong
      else
        match here with
        | none => .error .notFound
        | some names =>
          let names := names ++ [name]
          match fs.lookup names with
          | some bytes => if rest.isEmpty then .ok (.file names bytes) else stop .notADirectory
          | none =>
            if fs.hasDirectory names then walk fs (some names) rest
            else if rest.isEmpty then .ok (.free names) else stop .notFound

/-- Where a path leads. An empty path leads nowhere. -/
def place (fs : Files) (path : String) : Except FileFault Place :=
  if path = "" then .error .notFound
  else if 4095 < path.utf8ByteSize then .error .nameTooLong
  else fs.walk (if path.startsWith "/" then none else some []) (namesOf path)

/-- The bytes of a file. -/
def read (fs : Files) (path : String) : Except FileFault (List UInt8) := do
  match ← fs.place path with
  | .file _ bytes => pure bytes
  | .directory => throw .isADirectory
  | .free _ => throw .notFound
  | .noDirectory cause => throw cause

/-- The files after a file has been written, which need not have existed before. A path that asks
for a directory is refused for that alone. -/
def write (fs : Files) (path : String) (bytes : List UInt8) : Except FileFault Files := do
  match ← fs.place path with
  | .file names _ => pure (fs.map fun f => if f.1 = names then (names, bytes) else f)
  | .free names => pure (fs ++ [(names, bytes)])
  | .directory | .noDirectory _ => throw .isADirectory

/-- The files that are not as they were before. -/
def changed (before after : Files) : Files :=
  after.filter fun (names, bytes) => before.lookup names != some bytes

end Files

end MachiningViewer.Scenario
