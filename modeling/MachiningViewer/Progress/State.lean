import MachiningViewer.Job.Basic
import MachiningViewer.Progress.Event

/-!
# The state of a progress client

What a progress client shows of the job it is subscribed to: the phase of its stream and the latest
progress. Each subscription has a number of its own, its generation, and only the current generation
may change the state.
-/

namespace MachiningViewer.Progress

/-- Where a subscription stands. -/
inductive Phase where
  /-- There has been no subscription yet. -/
  | idle
  | connecting
  | live
  | disconnected
  /-- The subscription was given up. -/
  | terminal
  deriving DecidableEq, Repr, Inhabited

/-- The word for a phase in reports. -/
def Phase.label : Phase → String
  | .idle => "idle"
  | .connecting => "connecting"
  | .live => "live"
  | .disconnected => "disconnected"
  | .terminal => "terminal"

/-- Is a stream open, or about to be? -/
def Phase.isOpen : Phase → Bool
  | .connecting | .live => true
  | _ => false

/-- The latest that is known of the subscribed job. -/
structure State where
  job : Option JobId
  phase : Phase
  /-- By convention between zero and one hundred. -/
  progress : Float
  message : String
  /-- The number of the current subscription. -/
  generation : Nat
  deriving Repr, Inhabited

/-- Where a number lies between two bounds, which it does not exceed. A NaN has no place and stays.
-/
def clamp (x low high : Float) : Float :=
  if x < low then low else if x > high then high else x

/-- Is work under way, so that there is a progress to show? -/
def isActive (progress : Float) : Bool :=
  progress > 0.0 && progress < 100.0

/-- Progress as a fraction of the whole, between zero and one. -/
def fraction (progress : Float) : Float :=
  clamp (progress / 100.0) 0.0 1.0

namespace State

/-- Before the first subscription. -/
def initial : State where
  job := none
  phase := .idle
  progress := 0.0
  message := ""
  generation := 0

/-- Takes over what an event brings; what it leaves out stays. -/
def apply (s : State) (e : Event) : State :=
  { s with progress := e.progress.getD s.progress, message := e.label?.getD s.message }

/-- A new subscription to a job. Progress is kept only where the job stays the same. -/
def subscribe (s : State) (job : JobId) : State :=
  if s.job = some job then { s with generation := s.generation + 1, phase := .connecting }
  else ⟨some job, .connecting, 0.0, "", s.generation + 1⟩

/-- No subscription any more. -/
def unsubscribe (s : State) : State :=
  { s with generation := s.generation + 1, phase := .terminal }

end State

end MachiningViewer.Progress
