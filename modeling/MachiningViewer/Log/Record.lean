/-!
# Log records

What the library reports about its own doings: a level, the part of the library that speaks, a fixed
message and named values. The records of a capability are defined beside it; this module knows their
form only.
-/

namespace MachiningViewer.Log

/-- How important a record is. -/
inductive Level where
  | trace
  | debug
  | info
  | warn
  | error
  deriving DecidableEq, Repr, Inhabited

/-- The levels in rising order of importance. -/
def Level.rank : Level → Nat
  | .trace => 0
  | .debug => 1
  | .info => 2
  | .warn => 3
  | .error => 4

/-- The level's name in a log line. -/
def Level.name : Level → String
  | .trace => "TRACE"
  | .debug => "DEBUG"
  | .info => "INFO"
  | .warn => "WARN"
  | .error => "ERROR"

/-- One record. -/
structure Record where
  level : Level
  /-- The part of the library that speaks, as a path of names. -/
  target : String
  message : String
  /-- The values that belong to the message, in the order in which they are shown. -/
  fields : List (String × String)
  deriving DecidableEq, Repr, Inhabited

/-- Does a record have a field? Its message is one. -/
def Record.hasField (r : Record) (name : String) : Bool :=
  name == "message" || r.fields.any (·.1 == name)

end MachiningViewer.Log
