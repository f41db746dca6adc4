import MachiningViewer.Http.Exchange
import MachiningViewer.Toolpath.Extent

/-!
# Configuration

What an operator can set: where the job backend is, how often a job is looked at again, how long a
request may take, and how far the machine travels.
-/

namespace MachiningViewer

/-- The configuration of the viewer. -/
structure Config where
  /-- The address of the job backend. -/
  backend : String
  /-- The pause between two looks at a job that is not finished, in milliseconds. -/
  pollInterval : Nat
  /-- How long a request may take, in seconds. -/
  requestTimeout : Option Nat
  bounds : MachineBounds
  deriving Repr

/-- The configuration where nothing is set. -/
def Config.standard : Config where
  backend := "http://localhost:8000"
  pollInterval := 3000
  requestTimeout := none
  bounds := .standard

/-- The start of all addresses at the backend. -/
def Config.base (c : Config) : String :=
  Http.baseAddress c.backend

end MachiningViewer
