import MachiningViewer.Text.Utf8

/-!
# Files

Why a file cannot be read or written, in the words of the operating system, and what the text of a
file is.
-/

namespace MachiningViewer.CommandLine

/-- Why a file cannot be read or written. -/
inductive FileFault where
  | notFound
  | notADirectory
  | isADirectory
  | nameTooLong
  /-- Its bytes are no text. -/
  | noText
  /-- Something else, in the words of the operating system. -/
  | other (message : String)
  deriving DecidableEq, Repr

def FileFault.message : FileFault → String
  | .notFound => "No such file or directory (os error 2)"
  | .notADirectory => "Not a directory (os error 20)"
  | .isADirectory => "Is a directory (os error 21)"
  | .nameTooLong => "File name too long (os error 36)"
  | .noText => "stream did not contain valid UTF-8"
  | .other message => message

/-- The text of a file's bytes. -/
def textOf (bytes : List UInt8) : Except FileFault String :=
  match Text.Utf8.decode? bytes with
  | some text => .ok text
  | none => .error .noText

end MachiningViewer.CommandLine
