import MachiningViewer.CommandLine.File

/-!
# Files of this machine

Reading and writing the files of the machine that the program runs on.
-/

namespace MachiningViewer.Local

open CommandLine (FileFault)

/-- A fault that the operating system reports with a number. -/
def numbered (code : UInt32) (details : String) : FileFault :=
  match code with
  | 2 => .notFound
  | 20 => .notADirectory
  | 21 => .isADirectory
  | 36 => .nameTooLong
  | _ => .other (details ++ " (os error " ++ toString code ++ ")")

/-- Why a file cannot be read or written. -/
def faultOf : IO.Error → FileFault
  | .noFileOrDirectory _ code details => numbered code details
  | .inappropriateType _ code details => numbered code details
  | .invalidArgument _ code details => numbered code details
  | .permissionDenied _ code details => numbered code details
  | .resourceExhausted _ code details => numbered code details
  | .alreadyExists _ code details => numbered code details
  | .otherError code details => numbered code details
  | .resourceBusy code details => numbered code details
  | .hardwareFault code details => numbered code details
  | .unsupportedOperation code details => numbered code details
  | error => .other (toString error)

/-- The outcome of something that is done with a file. -/
def outcome (act : IO α) : IO (Except FileFault α) := do
  match ← act.toBaseIO with
  | .ok a => pure (.ok a)
  | .error e => pure (.error (faultOf e))

/-- The bytes of a file. -/
def readFile (path : String) : IO (Except FileFault (List UInt8)) :=
  outcome do
    let file ← IO.FS.Handle.mk path .read
    pure (← file.readBinToEnd).toList

/-- Writes a file, in place of the one that there may be. -/
def writeFile (path : String) (bytes : List UInt8) : IO (Except FileFault Unit) :=
  outcome (IO.FS.writeBinFile path ⟨bytes.toArray⟩)

end MachiningViewer.Local
