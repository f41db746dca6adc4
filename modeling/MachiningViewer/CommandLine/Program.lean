import MachiningViewer.Backend.Fetch
import MachiningViewer.CommandLine.Failure
import MachiningViewer.CommandLine.Host
import MachiningViewer.CommandLine.Summary
import MachiningViewer.CommandLine.Usage
import MachiningViewer.Config.Decode
import MachiningViewer.Config.Environment
import MachiningViewer.Log.Filter
import MachiningViewer.Log.Line

/-!
# The program

What the program does from its arguments to its exit code, on any host.
-/

namespace MachiningViewer.CommandLine

open Terminal (Style usesStyles)

/-- How things are shown in a run. -/
structure Appearance where
  styles : Bool
  logStyles : Bool
  filter : Log.Filter
  deriving Repr

/-- The least level that is reported where nothing else is asked for. -/
def Verbosity.level : Verbosity → Log.Level
  | .quiet => .warn
  | .verbose => .info
  | .detailed => .debug

/-- The variable that holds a log filter. -/
def filterVariable : String := "RUST_LOG"

/-- The filter of a run. What the environment asks for goes before the options, if it can be read.
-/
def filterOf (env : Environment) (v : Verbosity) : Log.Filter :=
  ((env.lookup filterVariable).bind Log.Filter.read?).getD (.ofLevel v.level)

/-- Are reports shown in styles? They are unless that is declined. -/
def usesLogStyles (env : Environment) : Bool :=
  ((env.lookup "NO_COLOR").getD "").isEmpty

/-- The appearance of a run. -/
def Appearance.of (env : Environment) (onTerminal : Bool) (v : Verbosity) : Appearance :=
  ⟨usesStyles env onTerminal, usesLogStyles env, filterOf env v⟩

/-- Where a download goes that has no place of its own. -/
def standardOutput (job : JobId) : String :=
  "job-" ++ toString job ++ ".nc"

namespace Program

variable {m : Type → Type} [Monad m] (host : Host m) (a : Appearance)

/-- Prints lines. -/
def say (lines : List String) : m Unit :=
  lines.forM fun l => host.output (l ++ "\n")

/-- Shows those records that the filter admits. -/
def report (records : List Log.Record) : m Unit :=
  (records.filter a.filter.admits).forM fun r => do
    let time ← host.time
    host.complain (r.line a.logStyles time ++ "\n")

/-- A result that stops the program if it is an error. -/
def orFail (f : ε → Failure) : Except ε α → ExceptT Failure m α
  | .ok a => pure a
  | .error e => throw (f e)

/-- The text of a file. -/
def readText (path : String) (f : FileFault → Failure) : ExceptT Failure m String := do
  let bytes ← orFail f (← host.readFile path)
  orFail f (textOf bytes)

/-- The configuration: what a file says, then what the environment says, then the options. -/
def configure (env : Environment) (o : Options) : ExceptT Failure m Config := do
  let c ← match o.config with
    | none => pure Config.standard
    | some path =>
      let text ← readText host path (.configUnreadable path)
      orFail (.configMalformed path) (Config.decode text)
  let (c, records) := c.withEnvironment env
  (report host a records : m Unit)
  pure { c with backend := o.backend.getD c.backend }

/-- Interprets a toolpath file and prints a summary. -/
def parse (c : Config) (path : String) : ExceptT Failure m Unit := do
  let t := Toolpath.interpret (← readText host path (.toolpathUnreadable path))
  (report host a [t.notice] : m Unit)
  (say host ((caption a.styles "File" ++ path) :: summary a.styles c.bounds t) : m Unit)

/-- Fetches the snapshot of a job. -/
def fetchJob (c : Config) (job : JobId) (f : FetchError → Failure) : ExceptT Failure m Job := do
  let fetched ← (Backend.fetchJob (host.send c.requestTimeout) c.base job : m (Backend.Fetched Job))
  (report host a fetched.log : m Unit)
  orFail f fetched.result

/-- Saves the toolpath text of a job. -/
def download (c : Config) (job : JobId) (output : Option String) : ExceptT Failure m Unit := do
  let snapshot ← fetchJob host a c job (.cannotFetch job)
  match snapshot.resolve? .toolpathText with
  | none => throw (.noToolpath job snapshot.status)
  | some artefact =>
    let fetched ←
      (Backend.fetchText (host.send c.requestTimeout) artefact : m (Backend.Fetched String))
    (report host a fetched.log : m Unit)
    let text ← orFail .cannotDownload fetched.result
    let path := output.getD (standardOutput job)
    orFail (.cannotWrite path) (← host.writeFile path (Text.Utf8.encode text))
    (say host [Style.green.apply a.styles "Saved" ++ " " ++ path ++ " (" ++
      toString text.utf8ByteSize ++ " bytes)"] : m Unit)

/-- Tells the user of a watch something. -/
def tell (job : JobId) : Said → m Unit
  | .record r => report host a [r]
  | .view v h => say host (h.lines a.styles job v)
  | .interruption => host.complain (Style.dimmed.apply a.styles "interrupted" ++ "\n")

/-- Follows a job. One that cannot be fetched is not watched at all. -/
def watch (c : Config) (job : JobId) : ExceptT Failure m Unit := do
  let _ ← fetchJob host a c job (.cannotWatch job)
  host.follow c (Watch.start c.pollInterval job) (tell host a job)

/-- Carries out a command. -/
def perform (env : Environment) (command : Command) (o : Options) : ExceptT Failure m Unit := do
  let c ← configure host a env o
  match command with
  | .parse path => parse host a c path
  | .watch job => watch host a c job
  | .download job => download host a c job o.output

/-- Reports a failure. -/
def fail (f : Failure) : m Nat := do
  host.complain (f.report ++ "\n")
  pure 1

/-- Runs the program, and answers with its exit code. -/
def run (env : Environment) (arguments : List String) : m Nat := do
  let onTerminal ← host.onTerminal
  let styles := usesStyles env onTerminal
  match Invocation.read arguments with
  | .usage asked =>
    host.complain (usage styles ++ "\n")
    pure (if asked then 0 else 1)
  | .refused fault => fail host (.command fault)
  | .run command options unknown =>
    unknown.forM fun name =>
      host.complain (warning styles ++ "ignoring unknown option " ++ name ++ "\n")
    match ← (perform host (.of env onTerminal options.verbosity) env command options).run with
    | .ok () => pure 0
    | .error f => fail host f

end Program

end MachiningViewer.CommandLine
