import MachiningViewer.Job.Basic
import MachiningViewer.Log.Record
import MachiningViewer.Progress.TransportError

/-!
# What a progress client reports
-/

namespace MachiningViewer.Progress.Notice

open Log

/-- The part of the library that speaks. -/
def target : String := "toolview::progress"

def subscribing (job : JobId) (generation : Nat) : Record :=
  ⟨.debug, target, "Subscribing to progress stream",
    [("job_id", toString job), ("generation", toString generation)]⟩

def closing (job : JobId) : Record :=
  ⟨.debug, target, "Closing progress stream", [("job_id", toString job)]⟩

def droppingLateStream (job : JobId) : Record :=
  ⟨.debug, target, "Dropping stream opened after teardown", [("job_id", toString job)]⟩

def openFailed (job : JobId) (e : TransportError) : Record :=
  ⟨.warn, target, "Progress stream failed to open",
    [("job_id", toString job), ("error", e.message)]⟩

def live (job : JobId) : Record :=
  ⟨.info, target, "Progress stream live", [("job_id", toString job)]⟩

def discardingStale (job : JobId) : Record :=
  ⟨.debug, target, "Discarding progress event for stale subscription", [("job_id", toString job)]⟩

def ignoringUndecodable (job : JobId) (payload : String) : Record :=
  ⟨.debug, target, "Ignoring undecodable progress message",
    [("job_id", toString job), ("payload", payload)]⟩

def disconnected (job : JobId) (e : TransportError) : Record :=
  ⟨.warn, target, "Progress stream disconnected", [("job_id", toString job), ("error", e.message)]⟩

def closedByServer (job : JobId) : Record :=
  ⟨.info, target, "Progress stream closed by server", [("job_id", toString job)]⟩

end MachiningViewer.Progress.Notice
