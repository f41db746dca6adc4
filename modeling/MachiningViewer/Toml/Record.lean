import MachiningViewer.Decode.Schema
import MachiningViewer.Number.Shortest
import MachiningViewer.Toml.Document

/-!
# Decoding TOML values

Readers from values to what the library wants. A document is read as a whole before it is decoded,
so a fault of form goes before any other.

A record may be written as a table or as the list of its fields. Entries of the table that are no
fields are passed over, and so are items beyond the fields and beyond the two numbers of a pair.
-/

namespace MachiningViewer.Toml

/-- What a value is. -/
def Value.found : Value → Found
  | .string s => .text s
  | .integer i => .integer i
  | .double x => .double x
  | .boolean b => .boolean b
  | .moment _ => .table
  | .array _ => .list
  | .table _ => .table

/-- The fault of a value that is not what is wanted. -/
def Value.mismatch (v : Value) (wanted : Wanted) : Except Fault α :=
  .error (.wrongType v.found wanted)

/-- A natural number of 64 bits. -/
def Value.natural (v : Value) : Except Fault Nat :=
  match v with
  | .integer i => if i < 0 then .error (.wrongValue (.integer i) .natural) else .ok i.toNat
  | v => v.mismatch .natural

/-- A double. Integers are rounded to the nearest one. -/
def Value.number (v : Value) : Except Fault Float :=
  match v with
  | .integer i => .ok (Float.ofInt i)
  | .double x => .ok x
  | v => v.mismatch .double

/-- A text. -/
def Value.text (v : Value) : Except Fault String :=
  match v with
  | .string s => .ok s
  | v => v.mismatch .text

/-- A list of two items. -/
def Value.pair (read : Value → Except Fault α) (v : Value) : Except Fault (α × α) :=
  match v with
  | .array [] => .error (.wrongLength 0 .pair)
  | .array [a] => do
    let _ ← read a
    throw (.wrongLength 1 .pair)
  | .array (a :: b :: _) => do
    let a ← read a
    let b ← read b
    return (a, b)
  | v => v.mismatch .pair

/-! ### Records -/

section

variable {Field Slots : Type}

/-- Reads the entries of a table in turn. -/
def fillFromEntries (s : Schema Value Field Slots) (slots : Slots) :
    List (String × Value) → Except Fault Slots
  | [] => .ok slots
  | (name, v) :: es =>
    match s.field? name with
    | none => fillFromEntries s slots es
    | some f => do
      let slots ← s.put slots f v
      fillFromEntries s slots es

/-- Reads the items of a list as the given fields, `index` others before them. -/
def fillFromItems (s : Schema Value Field Slots) (index : Nat) (slots : Slots) :
    List Field → List Value → Except Fault Slots
  | [], _ => .ok slots
  | f :: fs, [] =>
    if s.isOptional f then fillFromItems s (index + 1) slots fs []
    else .error (.wrongLength index (.fields s.name s.fields.length))
  | f :: fs, v :: vs => do
    let slots ← s.put slots f v
    fillFromItems s (index + 1) slots fs vs

/-- Reads the fields of a record that is written either way. A date is a table of nothing that is
known. -/
def Value.record (s : Schema Value Field Slots) (v : Value) : Except Fault Slots :=
  match v with
  | .table entries => fillFromEntries s s.empty entries
  | .moment _ => .ok s.empty
  | .array items => fillFromItems s 0 s.empty s.fields items
  | v => v.mismatch (.record s.name)

end

/-- Decodes a document. -/
def decode (read : Value → Except Fault α) (text : String) : Except Fault α :=
  match read? text with
  | some v => read v
  | none => .error .malformed

/-- Doubles are written positionally in messages, whatever their size. -/
def numberLayout : FloatLayout where
  positionalFrom := -400
  positionalTo := 400
  exponentPlus := false
  exponentWidth := 1

/-- The message of a fault in a document. -/
def faultMessage (f : Fault) : String :=
  f.message numberLayout.write

end MachiningViewer.Toml
