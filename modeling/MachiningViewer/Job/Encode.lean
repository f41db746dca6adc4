import MachiningViewer.Job.Basic

/-!
# Encoding jobs

The canonical form of a job: all fields of the job under their canonical names, with null for what
is absent; of a reference to an artefact the size and the hash only if they are known.
-/

namespace MachiningViewer

open Json

/-- A text, or null. -/
def encodeText? : Option String → Value
  | none => .null
  | some s => .string s

/-- The canonical form of a reference. -/
def ArtefactRef.toValue (a : ArtefactRef) : Value :=
  .object <|
    [("kind", .string a.kind.label), ("locator", .string a.locator)] ++
    (a.size.map fun n => ("size", Value.integer n)).toList ++
    (a.hash.map fun h => ("hash", Value.string h)).toList

namespace Job

/-- The canonical form of a job. -/
def toValue (job : Job) : Value :=
  .object [
    ("id", .integer job.id),
    ("kind", .string job.kind.label),
    ("status", .string job.status.label),
    ("created_at", .string job.createdAt),
    ("error_message", encodeText? job.errorMessage),
    ("error_code", encodeText? job.errorCode),
    ("queue", encodeText? job.queue),
    ("started_at", encodeText? job.startedAt),
    ("finished_at", encodeText? job.finishedAt),
    ("metrics", .object job.metrics),
    ("artefacts", .array (job.artefacts.map ArtefactRef.toValue))]

/-- The canonical text of a job. -/
def encode (job : Job) : String :=
  String.ofList job.toValue.write

end Job

end MachiningViewer
