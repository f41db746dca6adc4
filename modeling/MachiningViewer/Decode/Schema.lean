import MachiningViewer.Decode.Fault

/-!
# Records and choices in documents

How a record is read does not depend on the format of the document: it has a name and fields in an
order, some of which may be left out, and while it is read some fields are known. A `Schema` says
all that, given the values of the format; each format says in its own module in which order the
fields of a record are met.
-/

namespace MachiningViewer

/-- How a record is read from values of a format: its name, its fields in the order in which a list
gives them, and what is known of them while it is read. -/
structure Schema (Source Field Slots : Type) where
  name : String
  fields : List Field
  /-- The field with a given name or other name. -/
  field? : String → Option Field
  /-- The name of a field. -/
  label : Field → String
  /-- May the field be left out? -/
  isOptional : Field → Bool
  /-- Nothing is known yet. -/
  empty : Slots
  /-- Is the field known? -/
  has : Slots → Field → Bool
  /-- Reads a field. -/
  put : Slots → Field → Source → Except Fault Slots

/-- The value of a required field, once the whole record has been read. -/
def required (name : String) : Option α → Except Fault α
  | some a => .ok a
  | none => .error (.missingField name)

/-- The value with a given name in a table of names, of which several may stand for one value. -/
def choose (table : List (String × α)) (name : String) : Except Fault α :=
  match table.lookup name with
  | some a => .ok a
  | none => .error (.unknownChoice name (table.map (·.1)))

end MachiningViewer
