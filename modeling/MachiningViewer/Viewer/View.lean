import MachiningViewer.Job.Basic
import MachiningViewer.Progress.State
import MachiningViewer.Toolpath.Interpret

/-!
# What a viewer shows

A `View` is all that a renderer needs to know about the job that is open. Two flows feed it, the job
snapshots with the toolpath text and the progress stream, and each has fields of its own.
-/

namespace MachiningViewer.Viewer

/-- Whether there is a toolpath to show. -/
inductive ToolpathState where
  /-- Neither snapshot nor text has arrived yet. -/
  | pending
  /-- The job has no toolpath, as far as its last snapshot tells. -/
  | notProduced
  | loaded (t : Toolpath)
  | failed (cause : String)
  deriving Repr, Inhabited

/-- Is it open whether there will be a toolpath? -/
def ToolpathState.isPending : ToolpathState → Bool
  | .pending => true
  | _ => false

/-- What a viewer shows of a job. -/
structure View where
  jobId : Option JobId
  job : Option Job
  toolpath : ToolpathState
  unit : LengthUnit
  progress : Float
  progressMessage : String
  stream : Progress.Phase
  actions : JobActions
  /-- Why the last fetch failed, if it did. -/
  error : Option String
  /-- The number of the current session. -/
  session : Nat
  deriving Repr, Inhabited

namespace View

/-- Before anything was opened. -/
def initial : View where
  jobId := none
  job := none
  toolpath := .pending
  unit := .unknown
  progress := 0.0
  progressMessage := ""
  stream := .idle
  actions := .none
  error := none
  session := 0

/-- Is the shown job at its end? -/
def isSettled (v : View) : Bool :=
  v.job.any (·.status.isTerminal)

/-- The view as a session on a job finds it: nothing is known of the job, and its stream is about to
be opened. -/
def opened (job : JobId) (session : Nat) : View :=
  { initial with jobId := some job, stream := .connecting, session }

/-- The view when its session is closed. What was known stays to be seen. -/
def closed (v : View) : View :=
  { v with session := v.session + 1, stream := .terminal }

/-- The view with a new snapshot. A snapshot without a toolpath settles that there is none yet. -/
def withJob (v : View) (job : Job) : View :=
  { v with
    actions := job.permittedActions
    error := none
    toolpath := if job.hasArtefact .toolpathText then v.toolpath else .notProduced
    job := some job }

/-- The view when a snapshot could not be fetched. -/
def withError (v : View) (cause : String) : View :=
  { v with error := some cause }

/-- The view with a toolpath. -/
def withToolpath (v : View) (t : Toolpath) : View :=
  { v with unit := t.unit, toolpath := .loaded t }

/-- The view when the toolpath text could not be fetched. -/
def withToolpathError (v : View) (cause : String) : View :=
  { v with toolpath := .failed cause, error := some cause }

/-- The view with the progress client's latest. -/
def withProgress (v : View) (p : Progress.State) : View :=
  { v with progress := p.progress, progressMessage := p.message, stream := p.phase }

end View

end MachiningViewer.Viewer
