import MachiningViewer.Decode.Schema
import MachiningViewer.Json.Stream
import MachiningViewer.Toml.Record
import MachiningViewer.Toolpath.Extent

/-!
# Reading machine bounds

Machine bounds are a record of three ranges, each a pair of numbers. They are read from TOML files
and from JSON texts, so the schema leaves open how a format writes a pair of numbers.
-/

namespace MachiningViewer.MachineBounds

inductive Field where
  | x
  | y
  | z
  deriving DecidableEq, Repr

/-- What is known of the bounds while they are read. -/
structure Slots where
  x : Option Travel
  y : Option Travel
  z : Option Travel
  deriving Repr

def Field.label : Field → String
  | .x => "x"
  | .y => "y"
  | .z => "z"

def Field.all : List Field := [.x, .y, .z]

def Slots.has (s : Slots) : Field → Bool
  | .x => s.x.isSome
  | .y => s.y.isSome
  | .z => s.z.isSome

def Slots.put (s : Slots) (f : Field) (t : Travel) : Slots :=
  match f with
  | .x => { s with x := some t }
  | .y => { s with y := some t }
  | .z => { s with z := some t }

/-- How bounds are read in a format in which `range` reads a pair of numbers. -/
def schema (range : Source → Except Fault (Float × Float)) : Schema Source Field Slots where
  name := "MachineBounds"
  fields := Field.all
  field? name := Field.all.find? (·.label == name)
  label := Field.label
  isOptional _ := false
  empty := ⟨none, none, none⟩
  has := Slots.has
  put s f source := do
    let (lower, upper) ← range source
    return s.put f ⟨lower, upper⟩

/-- The bounds that are known once all of them have been read. -/
def ofSlots (s : Slots) : Except Fault MachineBounds := do
  return ⟨← required "x" s.x, ← required "y" s.y, ← required "z" s.z⟩

/-- Reads bounds from a JSON text. -/
def decode (text : String) : Except Json.Report MachineBounds :=
  Json.Cursor.readText (Json.Cursor.record (schema pure) Json.Cursor.pair ofSlots) text

/-- Reads bounds from a TOML value. -/
def ofToml (v : Toml.Value) : Except Fault MachineBounds := do
  ofSlots (← v.record (schema (Toml.Value.pair Toml.Value.number)))

end MachiningViewer.MachineBounds
