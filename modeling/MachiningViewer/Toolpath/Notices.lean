import MachiningViewer.Log.Record
import MachiningViewer.Toolpath.Basic

/-!
# Toolpaths in reports

The words for what a toolpath is made of, and what is reported when a text has been interpreted.
-/

namespace MachiningViewer

/-- The word for a kind of move in reports. -/
def MoveKind.label : MoveKind → String
  | .rapid => "rapid"
  | .feed => "feed"

/-- The word for a unit in reports. -/
def LengthUnit.label : LengthUnit → String
  | .millimetre => "mm"
  | .inch => "inch"
  | .unknown => "unknown"

/-- A toolpath text has been interpreted. -/
def Toolpath.notice (t : Toolpath) : Log.Record where
  level := .debug
  target := "toolview::toolpath::parser"
  message := "Parsed toolpath"
  fields := [("moves", toString t.moves.length), ("polylines", toString t.polylines.length),
    ("unit", t.unit.label)]

end MachiningViewer
