import MachiningViewer.CommandLine.Program
import MachiningViewer.Scenario.Files
import MachiningViewer.Scenario.Remote

/-!
# The program at a desk

The world of a scenario in which the program runs: some files, a scripted server, and the texts that
come out. A user who interrupts the program while it is not watching a job ends it on the spot.
-/

namespace MachiningViewer.Scenario

open CommandLine (Host Said Stage Watch)

/-- The world in which the program runs. -/
structure Desk where
  files : Files
  server : Server
  output : String
  complaints : String
  /-- The program has been ended from outside. -/
  halted : Bool
  deriving Repr

namespace Desk

/-- What the user gets to know of an effect, unless the remote side has to report it. -/
def said? : Watch.Effect → Option Said
  | .viewer _ => none
  | .print v h => some (.view v h)
  | .sayInterrupted => some .interruption

/-- An effect of a watch, with what is said because of it. -/
def applyEffect (state : Remote × List Said) (e : Watch.Effect) : Remote × List Said :=
  let r := match e with
    | .viewer e => state.1.apply e
    | _ => state.1
  ({ r with log := [] }, state.2 ++ (r.log.map .record ++ (said? e).toList))

/-- What happens next to a watch, if anything ever will: it looks at what is new, is interrupted, or
something happens to its viewer. -/
def next? (r : Remote) (w : Watch) : Option (Watch.Happening × Remote) :=
  if w.stage ≠ .watching then none
  else if w.hasNews then some (.turn, r)
  else if r.server.interrupted then some (.interrupt, r)
  else (r.next? w.viewer).map fun (h, r) => (.viewer h, r)

/-- Lets things happen to a watch until it ends. -/
def runWatch : Nat → Remote → Watch → List Said → Remote × List Said
  | 0, r, _, said => (r, said)
  | fuel + 1, r, w, said =>
    match next? r w with
    | none => (r, said)
    | some (h, r) =>
      let (w, effects) := w.step h
      let (r, said) := effects.foldl applyEffect (r, said)
      runWatch fuel r w said

/-- Changes the desk unless the program has been ended. -/
def update (f : Desk → Desk) : StateM Desk Unit :=
  modify fun d => if d.halted then d else f d

/-- Reads a file. -/
def readFile (path : String) :
    StateM Desk (Except CommandLine.FileFault (List UInt8)) := do
  pure ((← get).files.read path)

/-- Writes a file. -/
def writeFile (path : String) (bytes : List UInt8) :
    StateM Desk (Except CommandLine.FileFault Unit) := do
  match (← get).files.write path bytes with
  | .ok files =>
    update fun d => { d with files }
    pure (.ok ())
  | .error fault => pure (.error fault)

/-- Makes a request, which is answered at once. -/
def send (request : Http.Request) : StateM Desk Http.Reply := do
  let (reply, server) := (Server.answer request).run (← get).server
  update fun d => { d with server, halted := server.interrupted }
  pure reply

/-- Follows a watch. Twice as many steps as happen to the viewer are enough, since a look follows
only what has happened, and two more for the end. -/
def follow (c : Config) (start : Watch × List Watch.Effect) (tell : Said → StateM Desk Unit) :
    StateM Desk Unit := do
  let server := (← get).server
  let (r, said) := start.2.foldl applyEffect (.initial server c.base, [])
  let (r, said) := runWatch (2 * r.steps + 2) r start.1 said
  update fun d => { d with server := r.server }
  said.forM tell

/-- The desk as a host of the program. -/
def host : Host (StateM Desk) where
  readFile := readFile
  writeFile := writeFile
  send _ := send
  output text := update fun d => { d with output := d.output ++ text }
  complain text := update fun d => { d with complaints := d.complaints ++ text }
  time := pure "<time>"
  onTerminal := pure false
  follow := follow

/-- The exit code of a program that was ended from outside. -/
def haltedCode : Nat := 130

/-- Runs the program at a desk, and answers with its exit code and what the desk is like then. -/
def run (d : Desk) (env : Environment) (arguments : List String) : Nat × Desk :=
  let (code, d) := (CommandLine.Program.run host env arguments).run d
  (if d.halted then haltedCode else code, d)

end Desk

end MachiningViewer.Scenario
