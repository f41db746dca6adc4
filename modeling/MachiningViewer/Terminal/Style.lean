import MachiningViewer.Config.Environment

/-!
# Styles of text

How parts of the output stand out on a terminal that knows escape sequences. Whether they do is
decided once for a run (`usesStyles`).
-/

namespace MachiningViewer.Terminal

/-- A way to make a text stand out. -/
inductive Style where
  | bold
  | dimmed
  | italic
  | red
  | green
  | yellow
  | blue
  | magenta
  | cyan
  deriving DecidableEq, Repr

/-- The number of a style in an escape sequence. -/
def Style.code : Style → String
  | .bold => "1"
  | .dimmed => "2"
  | .italic => "3"
  | .red => "31"
  | .green => "32"
  | .yellow => "33"
  | .blue => "34"
  | .magenta => "35"
  | .cyan => "36"

/-- A text in a style, if styles are used. -/
def Style.apply (s : Style) (styles : Bool) (text : String) : String :=
  if styles then "\x1b[" ++ s.code ++ "m" ++ text ++ "\x1b[0m" else text

/-- Is a variable set to something else than zero? -/
def isOn (env : Environment) (name : String) : Option Bool :=
  (env.lookup name).map (· != "0")

/-- Are styles used? They can be asked for, and they can be declined; where neither is done, they
are used on a terminal. -/
def usesStyles (env : Environment) (onTerminal : Bool) : Bool :=
  if isOn env "CLICOLOR_FORCE" = some true then true
  else if (env.lookup "NO_COLOR").isSome then false
  else (isOn env "CLICOLOR").getD true && onTerminal

end MachiningViewer.Terminal
