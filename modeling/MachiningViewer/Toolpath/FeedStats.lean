import MachiningViewer.Toolpath.Extent

/-!
# Feed statistics

A summary of the feed rates of a toolpath's feed moves.
-/

namespace MachiningViewer

/-- Least, greatest and average feed rate. -/
structure FeedRange where
  min : Float
  max : Float
  mean : Float
  deriving Repr, Inhabited

/-- A summary of a list of feed rates. -/
structure FeedStats where
  count : Nat
  /-- Absent when there is no feed rate at all. -/
  range? : Option FeedRange
  /-- How many feed rates are zero, or nearly. -/
  nearZero : Nat
  deriving Repr, Inhabited

namespace FeedStats

/-- A feed rate below this one counts as zero. -/
def nearZeroFeed : Float := 1e-6

/-- The positive infinity, from which a search for the least number starts. -/
def infinity : Float := 1.0 / 0.0

/-- The summary of a list of feed rates. -/
def ofValues (values : List Float) : FeedStats where
  count := values.length
  range? :=
    if values.isEmpty then none
    else some {
      min := values.foldl smaller infinity
      max := values.foldl larger (-infinity)
      mean := sum values / Float.ofNat values.length }
  nearZero := values.countP fun v => v.abs < nearZeroFeed

/-- Is any feed rate zero, or nearly? -/
def hasZeroFeed (s : FeedStats) : Bool :=
  0 < s.nearZero

end FeedStats

/-- The summary of a toolpath's feed rates. -/
def Toolpath.feedStats (t : Toolpath) : FeedStats :=
  .ofValues t.feedValues

end MachiningViewer
