import MachiningViewer.Log.Record
import MachiningViewer.Terminal.Style

/-!
# Log lines

A record as one line: the time, the level in five columns, the target, the message, and the fields.
-/

namespace MachiningViewer.Log

open Terminal (Style)

/-- The style in which a level is shown. -/
def Level.style : Level → Style
  | .trace => .magenta
  | .debug => .blue
  | .info => .green
  | .warn => .yellow
  | .error => .red

/-- The name of a level at the right of five columns. -/
def Level.column (l : Level) : String :=
  String.ofList (List.replicate (5 - l.name.length) ' ') ++ l.name

/-- The line of a record that was made at a time. -/
def Record.line (styles : Bool) (time : String) (r : Record) : String :=
  let dimmed := Style.dimmed.apply styles
  let fields := r.fields.map fun (name, value) =>
    " " ++ Style.italic.apply styles name ++ dimmed "=" ++ value
  dimmed time ++ " " ++ r.level.style.apply styles r.level.column ++ " " ++
    dimmed r.target ++ dimmed ":" ++ " " ++ r.message ++ String.join fields

end MachiningViewer.Log
