import MachiningViewer.Config.Basic
import MachiningViewer.Number.Places
import MachiningViewer.Number.Shortest
import MachiningViewer.Terminal.Style
import MachiningViewer.Toolpath.FeedStats
import MachiningViewer.Toolpath.Notices

/-!
# The summary of a toolpath

What the program tells of a toolpath file, line by line: the unit, the moves, what would be drawn,
the feed rates, and whether the machine reaches all of it.
-/

namespace MachiningViewer.CommandLine

open Terminal (Style)

/-- Bounds are written with the fewest digits that tell them apart from other doubles. -/
def boundsLayout : FloatLayout where
  positionalFrom := -4
  positionalTo := 15
  exponentPlus := false
  exponentWidth := 1

/-- A range of travel. -/
def travelText (t : Travel) : String :=
  "[" ++ boundsLayout.write t.lower ++ ", " ++ boundsLayout.write t.upper ++ "]"

/-- A corner of the extent. -/
def cornerText (p : Point) : String :=
  "[" ++ withPlaces p.x 2 ++ ", " ++ withPlaces p.y 2 ++ ", " ++ withPlaces p.z 2 ++ "]"

section

variable (styles : Bool)

/-- The word in front of a line. -/
def caption (word : String) : String :=
  Style.dimmed.apply styles (word ++ ":") ++ " "

/-- The word in front of a line that warns. -/
def warning : String :=
  Style.yellow.apply styles "warning:" ++ " "

def unitLine (unit : LengthUnit) : String :=
  caption styles "Units" ++
    match unit with
    | .unknown => Style.yellow.apply styles "unknown (no unit directive)"
    | unit => Style.green.apply styles unit.label

/-- What would be drawn of one kind. The kind stands at the right of six columns. -/
def kindLine (t : Toolpath) (kind : MoveKind) : String :=
  let lines := t.polylinesOf kind
  let word := String.ofList (List.replicate (6 - kind.label.length) ' ') ++ kind.label
  caption styles word ++ toString lines.length ++ " polylines, " ++
    toString (lines.foldl (fun n l => n + l.points.length) 0) ++ " points, " ++
    withPlaces (sum (lines.map (·.length))) 3 ++ " path length"

def feedLines (s : FeedStats) : List String :=
  let first := caption styles "Feeds" ++
    match s.range? with
    | some r => toString s.count ++ " values, min " ++ withPlaces r.min 1 ++ ", max " ++
        withPlaces r.max 1 ++ ", mean " ++ withPlaces r.mean 1
    | none => "none"
  if s.hasZeroFeed then
    [first, warning styles ++ toString s.nearZero ++ " feed moves run at zero feed"]
  else [first]

def extentLines (bounds : MachineBounds) : Option Extent → List String
  | none => [caption styles "Extent" ++ "empty"]
  | some e =>
    [caption styles "Extent" ++ cornerText e.min ++ " .. " ++ cornerText e.max,
      if bounds.contains e then caption styles "Bounds" ++ "within machine bounds"
      else warning styles ++ "toolpath exceeds machine bounds " ++ travelText bounds.x ++ "/" ++
        travelText bounds.y ++ "/" ++ travelText bounds.z]

/-- The lines of a summary. -/
def summary (bounds : MachineBounds) (t : Toolpath) : List String :=
  [unitLine styles t.unit, caption styles "Moves" ++ toString t.moves.length,
    kindLine styles t .rapid, kindLine styles t .feed] ++
    feedLines styles t.feedStats ++
    (if t.feedDeclared then []
      else [warning styles ++ "feed moves present but no feed rate set"]) ++
    extentLines styles bounds t.extent?

end

end MachiningViewer.CommandLine
