/-!
# Moves, polylines and toolpaths

The data that interpreting a toolpath text yields. A `Move` is one motion command as it was written,
with the axes it does not mention left out; a `Polyline` is a stretch of positions that are reached
by the same kind of motion, ready to be drawn; a `Toolpath` is the whole answer.
-/

namespace MachiningViewer

/-- What a move is for. -/
inductive MoveKind where
  /-- Positioning at the machine's rapid rate. -/
  | rapid
  /-- Cutting at the programmed feed rate. -/
  | feed
  deriving DecidableEq, Repr, Inhabited

/-- The unit of length that a toolpath text declares. -/
inductive LengthUnit where
  | millimetre
  | inch
  /-- No directive was seen, or directives that contradict each other. -/
  | unknown
  deriving DecidableEq, Repr, Inhabited

/-- A position on the three axes. -/
structure Point where
  x : Float
  y : Float
  z : Float
  deriving Repr, Inhabited

/-- Where the machine stands before the first move. -/
def Point.origin : Point := ⟨0.0, 0.0, 0.0⟩

/-- The distance between two points. -/
def Point.distance (a b : Point) : Float :=
  let dx := b.x - a.x
  let dy := b.y - a.y
  let dz := b.z - a.z
  (dx * dx + dy * dy + dz * dz).sqrt

/-- One motion command. An axis is absent when its line does not mention it: the machine stays where
the move before left it on that axis. -/
structure Move where
  kind : MoveKind
  x : Option Float
  y : Option Float
  z : Option Float
  /-- The feed rate in effect, which feed moves inherit from each other. -/
  feed : Option Float
  deriving Repr, Inhabited

/-- Where a move ends that starts at `p`. -/
def Move.target (m : Move) (p : Point) : Point :=
  ⟨m.x.getD p.x, m.y.getD p.y, m.z.getD p.z⟩

/-- Connected points that are reached by one kind of motion. -/
structure Polyline where
  kind : MoveKind
  points : List Point
  deriving Repr, Inhabited

/-- The sum of `xs` from left to right. The sum of nothing is negative zero, the neutral element of
addition. -/
def sum (xs : List Float) : Float :=
  xs.foldl (· + ·) (-0.0)

/-- The length of the path through the points, in order. -/
def Polyline.length (p : Polyline) : Float :=
  sum (List.zipWith Point.distance p.points p.points.tail)

/-- What a toolpath text says. -/
structure Toolpath where
  /-- The stretches worth drawing, in the order of the text. -/
  polylines : List Polyline
  unit : LengthUnit
  /-- The feed rates of the feed moves that have one, in order. -/
  feedValues : List Float
  /-- The motion commands, in the order of the text. -/
  moves : List Move
  /-- False when there are feed moves and yet no feed rate is ever given. -/
  feedDeclared : Bool
  deriving Repr, Inhabited

/-- The polylines of one kind. -/
def Toolpath.polylinesOf (t : Toolpath) (kind : MoveKind) : List Polyline :=
  t.polylines.filter (·.kind == kind)

/-- All the points that would be drawn. -/
def Toolpath.points (t : Toolpath) : List Point :=
  t.polylines.flatMap (·.points)

end MachiningViewer
