import MachiningViewer.CommandLine.File
import MachiningViewer.CommandLine.Watch
import MachiningViewer.Config.Basic

/-!
# The host of the program

What the program needs of the world around it, as a record of operations: files, a network, two
streams of text and a clock. So the program is written once, for the world of a scenario as for the
real one.
-/

namespace MachiningViewer.CommandLine

/-- What the user of a watch gets to know. -/
inductive Said where
  | record (r : Log.Record)
  | view (v : Viewer.View) (h : Headline)
  | interruption

/-- The operations that the world around the program offers. -/
structure Host (m : Type → Type) where
  readFile : String → m (Except FileFault (List UInt8))
  writeFile : String → List UInt8 → m (Except FileFault Unit)
  /-- Makes a request and waits for its answer, but not longer than the given seconds. -/
  send : Option Nat → Http.Request → m Http.Reply
  /-- Writes to the output. -/
  output : String → m Unit
  /-- Writes to where errors and reports go. -/
  complain : String → m Unit
  /-- The time as it is shown in reports. -/
  time : m String
  /-- Does the output go to a terminal? -/
  onTerminal : m Bool
  /-- Lets things happen to a watch until it ends, at the backend of a configuration. What there is
  to say is said in order. -/
  follow : Config → Watch × List Watch.Effect → (Said → m Unit) → m Unit

end MachiningViewer.CommandLine
