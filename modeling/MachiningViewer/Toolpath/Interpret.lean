import MachiningViewer.Toolpath.Block

/-!
# Interpreting a toolpath text

`Toolpath.interpret` reads a text line by line and never fails: what it does not understand it
skips. The motion commands, each read by itself, become moves by inheriting feed rates
(`inheritFeeds`), and moves become polylines by following the machine's position
(`Polyline.ofMoves`).
-/

namespace MachiningViewer

open Text

/-! ### Feed rates -/

/-- Gives each feed move without a feed rate the rate of the feed move before it, if any: `modal` is
the rate in effect at the start. Rapid moves neither use nor change it. -/
def inheritFeeds (modal : Option Float) : List Move → List Move
  | [] => []
  | m :: ms =>
    match m.kind with
    | .rapid => m :: inheritFeeds modal ms
    | .feed =>
      let feed := m.feed.or modal
      { m with feed } :: inheritFeeds feed ms

/-- The feed rate that counts for the statistics: the one of a feed move that has one. -/
def Move.cuttingFeed? (m : Move) : Option Float :=
  match m.kind with
  | .rapid => none
  | .feed => m.feed

/-! ### Polylines -/

/-- A polyline worth drawing has at least two points. -/
def Polyline.isDrawable (p : Polyline) : Bool :=
  2 ≤ p.points.length

/-- Follows the moves from `position`. `kind` and `reached` are the stretch in the making: its kind,
and its points with the last one first. -/
def Polyline.follow (kind : MoveKind) (reached : List Point) (position : Point) :
    List Move → List Polyline
  | [] => [⟨kind, reached.reverse⟩].filter isDrawable
  | m :: ms =>
    let next := m.target position
    if m.kind = kind then follow kind (next :: reached) next ms
    else [⟨kind, reached.reverse⟩].filter isDrawable ++ follow m.kind [next] next ms

/-- The drawable polylines of a list of moves: a new one starts wherever the kind of motion changes,
and one with a single point is left out. -/
def Polyline.ofMoves : List Move → List Polyline
  | [] => []
  | m :: ms => follow m.kind [m.target .origin] (m.target .origin) ms

/-! ### The whole text -/

/-- The unit that a list of directives settles on: the only one that was asked for. -/
def LengthUnit.ofDirectives (ds : List LengthUnit) : LengthUnit :=
  match ds.contains .millimetre, ds.contains .inch with
  | true, false => .millimetre
  | false, true => .inch
  | _, _ => .unknown

/-- The toolpath with the given unit directives and motion commands. -/
def Toolpath.ofCommands (directives : List LengthUnit) (motions : List Move) : Toolpath :=
  let moves := inheritFeeds none motions
  { polylines := Polyline.ofMoves moves
    unit := .ofDirectives directives
    feedValues := moves.filterMap Move.cuttingFeed?
    moves
    feedDeclared := !motions.any (·.kind == .feed) || motions.any (·.feed.isSome) }

/-- The bodies of the lines that are not skipped, in order. -/
def Toolpath.bodies (text : List Char) : List (List Char) :=
  (lines text).filterMap Block.body?

/-- What a toolpath text says. -/
def Toolpath.interpret (text : String) : Toolpath :=
  let bodies := bodies text.toList
  ofCommands (bodies.flatMap Block.directives) (bodies.filterMap Block.motion?)

end MachiningViewer
