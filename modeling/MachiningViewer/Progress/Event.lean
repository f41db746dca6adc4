import MachiningViewer.Json.Record

/-!
# Progress events

One message of a progress stream, decoded. All of it is optional, and what is not a progress event
is nothing at all: a stream may carry messages that are for somebody else.
-/

namespace MachiningViewer.Progress

open Json

/-- A decoded progress message. -/
structure Event where
  /-- By convention between zero and one hundred. -/
  progress : Option Float
  message : Option String
  stage : Option String
  deriving Repr, Inhabited

namespace Event

/-- The text to show: the message if it has any characters, else the stage if that has any. -/
def label? (e : Event) : Option String :=
  (e.message.filter (· != "")).or (e.stage.filter (· != ""))

inductive Field where
  | progress
  | message
  | stage
  deriving DecidableEq, Repr

/-- What is known of an event while it is read. -/
structure Slots where
  progress : Option (Option Float)
  message : Option (Option String)
  stage : Option (Option String)
  deriving Repr

def Field.label : Field → String
  | .progress => "progress"
  | .message => "message"
  | .stage => "stage"

def Field.all : List Field := [.progress, .message, .stage]

def Slots.has (s : Slots) : Field → Bool
  | .progress => s.progress.isSome
  | .message => s.message.isSome
  | .stage => s.stage.isSome

def Slots.put (s : Slots) (f : Field) (t : Tree) : Except Fault Slots :=
  match f with
  | .progress => do return { s with progress := some (← t.optional Tree.double) }
  | .message => do return { s with message := some (← t.optional Tree.text) }
  | .stage => do return { s with stage := some (← t.optional Tree.text) }

def schema : Schema Tree Field Slots where
  name := "ProgressEvent"
  fields := Field.all
  field? name := Field.all.find? (·.label == name)
  label := Field.label
  isOptional _ := true
  empty := ⟨none, none, none⟩
  has := Slots.has
  put := Slots.put

/-- Reads an event. -/
def ofTree (t : Tree) : Except Fault Event := do
  let s ← t.record schema
  return ⟨s.progress.getD none, s.message.getD none, s.stage.getD none⟩

/-- The event that a payload denotes, if it denotes one. -/
def decode? (payload : String) : Option Event :=
  (Json.decode ofTree payload).toOption

end Event

end MachiningViewer.Progress
