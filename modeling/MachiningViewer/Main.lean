import MachiningViewer.CommandLine.Program
import MachiningViewer.Local.Files
import MachiningViewer.Local.Following
import Std.Time

/-!
# The program on this machine

The host that is this machine, and the program's entry.
-/

namespace MachiningViewer.Local

open CommandLine (Host)

/-- The variables that the program knows. -/
def knownVariables : List String :=
  [Config.backendVariable, Config.boundsVariable, CommandLine.filterVariable,
    "NO_COLOR", "CLICOLOR", "CLICOLOR_FORCE"]

/-- Those of them that are set. -/
def environment : IO Environment := do
  let values ← knownVariables.mapM fun name => do
    pure ((← IO.getEnv name).map fun value => (name, value))
  pure (values.filterMap id)

/-- The time as it is shown in reports. -/
def time : IO String := do
  let now ← Std.Time.Timestamp.now
  let shown := Std.Time.PlainDateTime.ofWallTime (.ofTimestamp now .zero)
  pure (shown.format "uuuu-MM-dd\x27T\x27HH:mm:ss.SSSSSS\x27Z\x27")

/-- Writes a text at once. -/
def put (stream : IO.FS.Stream) (text : String) : IO Unit := do
  stream.putStr text
  stream.flush

/-- This machine as a host of the program. -/
def host : Host IO where
  readFile := readFile
  writeFile := writeFile
  send timeout request := (fetch timeout request).block
  output text := do put (← IO.getStdout) text
  complain text := do put (← IO.getStderr) text
  time := time
  onTerminal := do (← IO.getStdout).isTty
  follow := follow

end MachiningViewer.Local

open MachiningViewer MachiningViewer.CommandLine in
/-- Runs the program with its arguments, and answers with its exit code. -/
def main (arguments : List String) : IO UInt32 := do
  let code ← Program.run Local.host (← Local.environment) arguments
  pure code.toUInt32
