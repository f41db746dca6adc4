import MachiningViewer.Job.Basic
import MachiningViewer.Log.Record

/-!
# What fetching from the backend reports
-/

namespace MachiningViewer.Backend.Notice

open Log

/-- The part of the library that speaks. -/
def target : String := "toolview::api::http"

def fetchingJob (job : JobId) (address : String) : Record :=
  ⟨.debug, target, "Fetching job snapshot", [("job_id", toString job), ("url", address)]⟩

def jobRefused (job : JobId) (status : Nat) : Record :=
  ⟨.warn, target, "Job fetch failed", [("job_id", toString job), ("status", toString status)]⟩

def gotJob (asked : JobId) (job : Job) : Record :=
  ⟨.debug, target, "Got job snapshot", [("job_id", toString asked), ("status", job.status.label),
    ("artefacts", toString job.artefacts.length)]⟩

def fetchingText (artefact : ArtefactRef) : Record :=
  ⟨.debug, target, "Fetching artifact",
    [("kind", artefact.kind.label), ("locator", artefact.locator)]⟩

def textRefused (artefact : ArtefactRef) (status : Nat) : Record :=
  ⟨.warn, target, "Artifact fetch failed",
    [("kind", artefact.kind.label), ("status", toString status)]⟩

def gotText (artefact : ArtefactRef) (text : String) : Record :=
  ⟨.debug, target, "Got artifact",
    [("kind", artefact.kind.label), ("bytes", toString text.utf8ByteSize)]⟩

end MachiningViewer.Backend.Notice
