import MachiningViewer.Backend.FetchError
import MachiningViewer.CommandLine.Arguments
import MachiningViewer.CommandLine.File
import MachiningViewer.Toml.Record

/-!
# Failures

Why the program stops without having done what it was asked to do, and the report of it: what
failed, and below it what that was caused by.
-/

namespace MachiningViewer.CommandLine

/-- Why the program stops. -/
inductive Failure where
  | command (fault : CommandFault)
  | configUnreadable (path : String) (fault : FileFault)
  | configMalformed (path : String) (fault : Fault)
  | toolpathUnreadable (path : String) (fault : FileFault)
  | cannotWatch (job : JobId) (error : FetchError)
  | cannotFetch (job : JobId) (error : FetchError)
  | noToolpath (job : JobId) (status : JobStatus)
  | cannotDownload (error : FetchError)
  | cannotWrite (path : String) (fault : FileFault)
  deriving Repr

namespace Failure

/-- What failed. -/
def headline : Failure → String
  | .command (.unknown name) => "Unknown command: " ++ name
  | .command (.noJobNumber text _) => "Invalid job id: " ++ text
  | .configUnreadable path _ => "Failed to read config file: " ++ path
  | .configMalformed path _ => "Failed to parse config file: " ++ path
  | .toolpathUnreadable path _ => "Failed to read toolpath file: " ++ path
  | .cannotWatch job _ => "Cannot watch job " ++ toString job
  | .cannotFetch job _ => "Failed to fetch job " ++ toString job
  | .noToolpath job status =>
    "Job " ++ toString job ++ " has no toolpath yet (status: " ++ status.label ++ ")"
  | .cannotDownload _ => "Failed to download toolpath, the signed URL may have expired"
  | .cannotWrite path _ => "Failed to write " ++ path

/-- What it was caused by, unless that is said already. -/
def cause? : Failure → Option String
  | .command (.unknown _) => none
  | .command (.noJobNumber _ fault) => some fault.message
  | .configUnreadable _ fault => some fault.message
  | .configMalformed _ fault => some ("TOML parse error: " ++ Toml.faultMessage fault)
  | .toolpathUnreadable _ fault => some fault.message
  | .cannotWatch _ error => some error.message
  | .cannotFetch _ error => some error.message
  | .noToolpath _ _ => none
  | .cannotDownload error => some error.message
  | .cannotWrite _ fault => some fault.message

/-- Puts four blanks in front of every line. -/
def indented (text : String) : String :=
  "\n".intercalate ((Text.lines text.toList).map fun l => "    " ++ String.ofList l)

/-- The report of a failure. -/
def report (f : Failure) : String :=
  "Error: " ++ f.headline ++
    match f.cause? with
    | some cause => "\n\nCaused by:\n" ++ indented cause
    | none => ""

end Failure

end MachiningViewer.CommandLine
