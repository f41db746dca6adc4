import MachiningViewer.Toolpath.Basic

/-!
# Extents and machine bounds

The box around the drawn points, and the check that a machine can reach all of it.
-/

namespace MachiningViewer

/-- The smaller of two numbers. A NaN gives way to the other number. -/
def smaller (a b : Float) : Float :=
  if a.isNaN then b else if b.isNaN then a else if b < a then b else a

/-- The larger of two numbers. A NaN gives way to the other number. -/
def larger (a b : Float) : Float :=
  if a.isNaN then b else if b.isNaN then a else if a < b then b else a

/-- A box whose sides are parallel to the axes. -/
structure Extent where
  min : Point
  max : Point
  deriving Repr, Inhabited

namespace Extent

/-- The box that is one point. -/
def ofPoint (p : Point) : Extent := ⟨p, p⟩

/-- The box grown to hold a point. -/
def grow (e : Extent) (p : Point) : Extent where
  min := ⟨smaller e.min.x p.x, smaller e.min.y p.y, smaller e.min.z p.z⟩
  max := ⟨larger e.max.x p.x, larger e.max.y p.y, larger e.max.z p.z⟩

/-- The box around a list of points, if there are any. -/
def ofPoints? : List Point → Option Extent
  | [] => none
  | p :: ps => some (ps.foldl grow (ofPoint p))

/-- The lengths of the sides. -/
def size (e : Extent) : Point :=
  ⟨e.max.x - e.min.x, e.max.y - e.min.y, e.max.z - e.min.z⟩

end Extent

/-- The range of travel on one axis, its ends included. -/
structure Travel where
  lower : Float
  upper : Float
  deriving Repr, Inhabited

/-- Are both numbers in the range? -/
def Travel.covers (t : Travel) (low high : Float) : Bool :=
  low ≥ t.lower && high ≤ t.upper

/-- The travel of a machine on its three axes. -/
structure MachineBounds where
  x : Travel
  y : Travel
  z : Travel
  deriving Repr, Inhabited

/-- The machine that is assumed where none is configured. -/
def MachineBounds.standard : MachineBounds :=
  ⟨⟨0.0, 300.0⟩, ⟨0.0, 300.0⟩, ⟨-50.0, 150.0⟩⟩

/-- Does the machine reach the whole box? -/
def MachineBounds.contains (b : MachineBounds) (e : Extent) : Bool :=
  b.x.covers e.min.x e.max.x && b.y.covers e.min.y e.max.y && b.z.covers e.min.z e.max.z

/-- The box around all the drawn points of a toolpath. -/
def Toolpath.extent? (t : Toolpath) : Option Extent :=
  Extent.ofPoints? t.points

end MachiningViewer
