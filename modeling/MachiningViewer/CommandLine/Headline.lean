import MachiningViewer.Number.Places
import MachiningViewer.Terminal.Style
import MachiningViewer.Text.Blank
import MachiningViewer.Toolpath.Notices
import MachiningViewer.Viewer.View

/-!
# Headlines

What is printed of a view while a job is watched. A view whose headline is the same as before is not
printed again.
-/

namespace MachiningViewer.CommandLine

open Terminal (Style)
open Viewer (View ToolpathState)

/-- What of a view is worth printing when it changes. -/
structure Headline where
  status : Option String
  toolpath : String
  progress : String
  stream : Progress.Phase
  error : Option String
  deriving DecidableEq, Repr

/-- The state of the toolpath in words. -/
def toolpathText : ToolpathState → String
  | .pending => "pending"
  | .notProduced => "not produced yet"
  | .loaded t => toString t.polylines.length ++ " polylines (" ++ t.unit.label ++ ")"
  | .failed cause => "failed: " ++ cause

/-- The headline of a view. -/
def Headline.ofView (v : View) : Headline where
  status := v.job.map (·.status.label)
  toolpath := toolpathText v.toolpath
  progress := withPlaces v.progress 0 ++ "% " ++ v.progressMessage
  stream := v.stream
  error := v.error

/-- The style in which the phase of a stream is printed. -/
def phaseStyle : Progress.Phase → Style
  | .live => .green
  | .disconnected => .yellow
  | _ => .dimmed

/-- The lines that are printed of a view with a headline. -/
def Headline.lines (styles : Bool) (job : JobId) (v : View) (h : Headline) : List String :=
  let word := Style.dimmed.apply styles
  let first := " ".intercalate [
    Style.bold.apply styles ("job #" ++ toString job),
    word "status:", h.status.getD "-",
    word "toolpath:", h.toolpath,
    word "progress:", String.ofList (Text.trimEnd h.progress.toList),
    word "stream:", (phaseStyle h.stream).apply styles h.stream.label]
  first ::
    (h.error.toList.map fun e => "  " ++ Style.red.apply styles "error:" ++ " " ++ e) ++
    (if v.actions.viewSimulation then
      ["  " ++ Style.cyan.apply styles "simulation mesh available"]
    else [])

end MachiningViewer.CommandLine
