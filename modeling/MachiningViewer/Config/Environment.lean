import MachiningViewer.Config.Basic
import MachiningViewer.Config.Bounds
import MachiningViewer.Log.Record
import MachiningViewer.Text.Blank

/-!
# Environment variables

The environment is the variables that are set when the program is started. Two of them go before the
configuration file: one gives the address of the backend, the other the machine bounds as a JSON
text. An address that is blank counts as not given, and bounds that do not decode are reported and
passed over.
-/

namespace MachiningViewer

/-- The variables that are set, with their values. -/
abbrev Environment := List (String × String)

namespace Config

/-- The variable that gives the address of the backend. -/
def backendVariable : String := "TOOLVIEW_API_BASE_URL"

/-- The variable that gives the machine bounds. -/
def boundsVariable : String := "TOOLVIEW_MACHINE_BOUNDS"

/-- A text in the environment does not decode as bounds. -/
def malformedBounds (text : String) (r : Json.Report) : Log.Record where
  level := .warn
  target := "toolview"
  message := "Ignoring malformed " ++ boundsVariable
  fields := [("error", r.message text)]

/-- Takes the address of the backend from the environment, without the blanks around it. -/
def withBackendOf (env : Environment) (c : Config) : Config :=
  match (env.lookup backendVariable).map fun value => Text.trim value.toList with
  | some (a :: as) => { c with backend := String.ofList (a :: as) }
  | _ => c

/-- Takes the machine bounds from the environment. -/
def withBoundsOf (env : Environment) (c : Config) : Config × List Log.Record :=
  match env.lookup boundsVariable with
  | none => (c, [])
  | some text =>
    match MachineBounds.decode text with
    | .ok bounds => ({ c with bounds }, [])
    | .error r => (c, [malformedBounds text r])

/-- The configuration with what the environment gives, and what there is to report. -/
def withEnvironment (env : Environment) (c : Config) : Config × List Log.Record :=
  withBoundsOf env (withBackendOf env c)

end Config

end MachiningViewer
