import MachiningViewer.Job.Basic
import MachiningViewer.Json.Record

/-!
# Decoding jobs

`Job.decode` reads the JSON text of a job. The backend's own names for fields and kinds are read as
the canonical ones.
-/

namespace MachiningViewer

open Json

/-! ### References to artefacts -/

namespace ArtefactRef

inductive Field where
  | kind
  | locator
  | size
  | hash
  deriving DecidableEq, Repr

/-- What is known of a reference while it is read. -/
structure Slots where
  kind : Option ArtefactKind
  locator : Option String
  size : Option (Option Nat)
  hash : Option (Option String)
  deriving Repr

def Field.label : Field → String
  | .kind => "kind"
  | .locator => "locator"
  | .size => "size"
  | .hash => "hash"

def Field.ofName? : String → Option Field
  | "kind" | "type" => some .kind
  | "locator" | "signed_url" => some .locator
  | "size" => some .size
  | "hash" | "sha256" => some .hash
  | _ => none

def Slots.has (s : Slots) : Field → Bool
  | .kind => s.kind.isSome
  | .locator => s.locator.isSome
  | .size => s.size.isSome
  | .hash => s.hash.isSome

def Slots.put (s : Slots) (f : Field) (t : Tree) : Except Fault Slots :=
  match f with
  | .kind => do return { s with kind := some (← t.choice ArtefactKind.names) }
  | .locator => do return { s with locator := some (← t.text) }
  | .size => do return { s with size := some (← t.optional Tree.natural) }
  | .hash => do return { s with hash := some (← t.optional Tree.text) }

def schema : Schema Tree Field Slots where
  name := "ArtefactRef"
  fields := [.kind, .locator, .size, .hash]
  field? := Field.ofName?
  label := Field.label
  isOptional f := f == .size || f == .hash
  empty := ⟨none, none, none, none⟩
  has := Slots.has
  put := Slots.put

/-- The reference that is known once all of it has been read. -/
def ofSlots (s : Slots) : Except Fault ArtefactRef := do
  return {
    kind := ← required "kind" s.kind
    locator := ← required "locator" s.locator
    size := s.size.getD none
    hash := s.hash.getD none }

/-- Reads a reference. -/
def ofTree (t : Tree) : Except Fault ArtefactRef := do
  ofSlots (← t.record schema)

end ArtefactRef

/-! ### Jobs -/

namespace Job

inductive Field where
  | id
  | kind
  | status
  | createdAt
  | errorMessage
  | errorCode
  | queue
  | startedAt
  | finishedAt
  | metrics
  | artefacts
  deriving DecidableEq, Repr

/-- What is known of a job while it is read. -/
structure Slots where
  id : Option Nat
  kind : Option JobKind
  status : Option JobStatus
  createdAt : Option String
  errorMessage : Option (Option String)
  errorCode : Option (Option String)
  queue : Option (Option String)
  startedAt : Option (Option String)
  finishedAt : Option (Option String)
  metrics : Option (List (String × Json.Value))
  artefacts : Option (List ArtefactRef)
  deriving Repr

def Field.label : Field → String
  | .id => "id"
  | .kind => "kind"
  | .status => "status"
  | .createdAt => "created_at"
  | .errorMessage => "error_message"
  | .errorCode => "error_code"
  | .queue => "queue"
  | .startedAt => "started_at"
  | .finishedAt => "finished_at"
  | .metrics => "metrics"
  | .artefacts => "artefacts"

/-- The fields in the order in which a list gives them. -/
def Field.all : List Field :=
  [.id, .kind, .status, .createdAt, .errorMessage, .errorCode, .queue, .startedAt, .finishedAt,
    .metrics, .artefacts]

def Field.ofName? (name : String) : Option Field :=
  if name == "type" then some .kind else Field.all.find? (·.label == name)

/-- May the field be left out? -/
def Field.isOptional : Field → Bool
  | .id | .kind | .status | .createdAt => false
  | _ => true

def Slots.has (s : Slots) : Field → Bool
  | .id => s.id.isSome
  | .kind => s.kind.isSome
  | .status => s.status.isSome
  | .createdAt => s.createdAt.isSome
  | .errorMessage => s.errorMessage.isSome
  | .errorCode => s.errorCode.isSome
  | .queue => s.queue.isSome
  | .startedAt => s.startedAt.isSome
  | .finishedAt => s.finishedAt.isSome
  | .metrics => s.metrics.isSome
  | .artefacts => s.artefacts.isSome

/-- Reads a field. Null stands for no metrics and no artefacts. -/
def Slots.put (s : Slots) (f : Field) (t : Tree) : Except Fault Slots :=
  match f with
  | .id => do return { s with id := some (← t.natural) }
  | .kind => do return { s with kind := some (← t.choice JobKind.names) }
  | .status => do return { s with status := some (← t.choice JobStatus.names) }
  | .createdAt => do return { s with createdAt := some (← t.text) }
  | .errorMessage => do return { s with errorMessage := some (← t.optional Tree.text) }
  | .errorCode => do return { s with errorCode := some (← t.optional Tree.text) }
  | .queue => do return { s with queue := some (← t.optional Tree.text) }
  | .startedAt => do return { s with startedAt := some (← t.optional Tree.text) }
  | .finishedAt => do return { s with finishedAt := some (← t.optional Tree.text) }
  | .metrics => do return { s with metrics := some ((← t.optional (Tree.table 1)).getD []) }
  | .artefacts => do
    return { s with artefacts := some ((← t.optional (Tree.list ArtefactRef.ofTree)).getD []) }

def schema : Schema Tree Field Slots where
  name := "Job"
  fields := Field.all
  field? := Field.ofName?
  label := Field.label
  isOptional := Field.isOptional
  empty := ⟨none, none, none, none, none, none, none, none, none, none, none⟩
  has := Slots.has
  put := Slots.put

/-- The job that is known once all of it has been read. -/
def ofSlots (s : Slots) : Except Fault Job := do
  return {
    id := ← required "id" s.id
    kind := ← required "kind" s.kind
    status := ← required "status" s.status
    createdAt := ← required "created_at" s.createdAt
    errorMessage := s.errorMessage.getD none
    errorCode := s.errorCode.getD none
    queue := s.queue.getD none
    startedAt := s.startedAt.getD none
    finishedAt := s.finishedAt.getD none
    metrics := s.metrics.getD []
    artefacts := s.artefacts.getD [] }

/-- Reads a job. -/
def ofTree (t : Tree) : Except Fault Job := do
  ofSlots (← t.record schema)

/-- Reads the JSON text of a job. -/
def decode (text : String) : Except Fault Job :=
  Json.decode ofTree text

end Job

end MachiningViewer
