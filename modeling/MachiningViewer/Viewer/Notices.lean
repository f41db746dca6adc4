import MachiningViewer.Job.Basic
import MachiningViewer.Toolpath.Notices

/-!
# What a viewer reports
-/

namespace MachiningViewer.Viewer.Notice

open Log

/-- The part of the library that speaks. -/
def target : String := "toolview::orchestrator"

def opening (job : JobId) (session : Nat) : Record :=
  ⟨.info, target, "Opening job view", [("job_id", toString job), ("session", toString session)]⟩

def closing (job : JobId) : Record :=
  ⟨.info, target, "Closing job view", [("job_id", toString job)]⟩

def cancelling (job : JobId) : Record :=
  ⟨.debug, target, "Cancelling session tasks", [("job_id", toString job)]⟩

def appliedSnapshot (job : JobId) (status : JobStatus) : Record :=
  ⟨.debug, target, "Applied job snapshot", [("job_id", toString job), ("status", status.label)]⟩

def discardingSnapshot (job : JobId) : Record :=
  ⟨.debug, target, "Discarding snapshot for stale session", [("job_id", toString job)]⟩

def jobFinished (job : JobId) (status : JobStatus) : Record :=
  ⟨.info, target, "Job finished, polling stopped",
    [("job_id", toString job), ("status", status.label)]⟩

def snapshotFailed (job : JobId) (error : String) : Record :=
  ⟨.warn, target, "Job snapshot fetch failed", [("job_id", toString job), ("error", error)]⟩

def toolpathLoaded (job : JobId) (t : Toolpath) : Record :=
  ⟨.info, target, "Toolpath loaded", [("job_id", toString job),
    ("polylines", toString t.polylines.length), ("unit", t.unit.label)]⟩

def toolpathFailed (job : JobId) (error : String) : Record :=
  ⟨.warn, target, "Toolpath fetch failed", [("job_id", toString job), ("error", error)]⟩

end MachiningViewer.Viewer.Notice
