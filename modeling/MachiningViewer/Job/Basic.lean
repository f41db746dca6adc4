import MachiningViewer.Json.Value

/-!
# Jobs

A job as the backend reports it: what kind of work it is, how far it got, and references to the
artefacts it has produced. What a user may do with a job follows from these
(`Job.permittedActions`).
-/

namespace MachiningViewer

/-- The backend's number for a job. -/
abbrev JobId := Nat

/-- What a job works on. -/
inductive JobKind where
  | assembly
  | toolpathGeneration
  | simulation
  deriving DecidableEq, Repr, Inhabited

/-- How far a job is. -/
inductive JobStatus where
  | queued
  | running
  | success
  | failed
  deriving DecidableEq, Repr, Inhabited

/-- Will the job not change any more? -/
def JobStatus.isTerminal : JobStatus → Bool
  | .success | .failed => true
  | .queued | .running => false

/-- What an artefact holds. -/
inductive ArtefactKind where
  | sourceModel
  | toolpathText
  | simulationMesh
  | log
  deriving DecidableEq, Repr, Inhabited

/-! ### Names

Each name stands for one value; the canonical name of a value is the one that is written. -/

namespace JobKind

def label : JobKind → String
  | .assembly => "assembly"
  | .toolpathGeneration => "toolpath-generation"
  | .simulation => "simulation"

/-- All names of the kinds, those of the backend among them. -/
def names : List (String × JobKind) :=
  [("assembly", .assembly), ("cam", .toolpathGeneration),
    ("toolpath-generation", .toolpathGeneration), ("sim", .simulation), ("simulation", .simulation)]

end JobKind

namespace JobStatus

def label : JobStatus → String
  | .queued => "queued"
  | .running => "running"
  | .success => "success"
  | .failed => "failed"

/-- All names of the states. -/
def names : List (String × JobStatus) :=
  [("queued", .queued), ("running", .running), ("success", .success), ("failed", .failed)]

end JobStatus

namespace ArtefactKind

def label : ArtefactKind → String
  | .sourceModel => "source-model"
  | .toolpathText => "toolpath-text"
  | .simulationMesh => "simulation-mesh"
  | .log => "log"

/-- All names of the kinds, those of the backend among them. -/
def names : List (String × ArtefactKind) :=
  [("fcstd", .sourceModel), ("source-model", .sourceModel), ("gcode", .toolpathText),
    ("toolpath-text", .toolpathText), ("sim-mesh", .simulationMesh),
    ("simulation-mesh", .simulationMesh), ("log", .log)]

/-- All the kinds. -/
def all : List ArtefactKind :=
  [.sourceModel, .toolpathText, .simulationMesh, .log]

end ArtefactKind

/-! ### Jobs and what they have produced -/

/-- Where an artefact can be fetched. -/
structure ArtefactRef where
  kind : ArtefactKind
  locator : String
  size : Option Nat
  hash : Option String
  deriving DecidableEq, Repr, Inhabited

/-- The state of a job at some moment. -/
structure Job where
  id : JobId
  kind : JobKind
  status : JobStatus
  createdAt : String
  errorMessage : Option String
  errorCode : Option String
  queue : Option String
  startedAt : Option String
  finishedAt : Option String
  /-- Whatever the backend measures, by name. -/
  metrics : List (String × Json.Value)
  /-- The artefacts in the order in which they were produced. -/
  artefacts : List ArtefactRef
  deriving Repr, Inhabited

/-- What a user may do with a job. -/
structure JobActions where
  generateToolpath : Bool
  startSimulation : Bool
  viewSimulation : Bool
  downloadToolpath : Bool
  deriving DecidableEq, Repr, Inhabited

/-- Nothing is permitted. -/
def JobActions.none : JobActions := ⟨false, false, false, false⟩

namespace Job

/-- The first artefact of a kind. -/
def resolve? (job : Job) (kind : ArtefactKind) : Option ArtefactRef :=
  job.artefacts.find? (·.kind == kind)

/-- Has the job produced an artefact of a kind? -/
def hasArtefact (job : Job) (kind : ArtefactKind) : Bool :=
  (job.resolve? kind).isSome

/-- What a user may do with the job: a toolpath is generated from an assembly that has none, and
simulated or downloaded once there is one. -/
def permittedActions (job : Job) : JobActions where
  generateToolpath := job.kind == .assembly && !job.hasArtefact .toolpathText
  startSimulation := job.hasArtefact .toolpathText
  viewSimulation := job.hasArtefact .simulationMesh
  downloadToolpath := job.hasArtefact .toolpathText

/-- A job with the given artefacts and nothing else that is optional. -/
def brief (id : JobId) (status : JobStatus) (artefacts : List (ArtefactKind × String)) : Job where
  id
  kind := .toolpathGeneration
  status
  createdAt := "2024-05-01T10:00:00Z"
  errorMessage := none
  errorCode := none
  queue := none
  startedAt := none
  finishedAt := none
  metrics := []
  artefacts := artefacts.map fun (kind, locator) => ⟨kind, locator, none, none⟩

end Job

end MachiningViewer
