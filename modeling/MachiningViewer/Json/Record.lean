import MachiningViewer.Decode.Schema
import MachiningViewer.Json.Value

/-!
# Decoding JSON trees

Readers from trees to what the library wants: numbers, texts, lists, choices between names, and
records. Each answers with the first fault in the order of the text.

A record is described by a `Schema` and may be written as an object or as the list of its fields. An
object may hold its fields in any order, and others besides, which are skipped; a list holds them in
the order of the schema and may stop where only optional ones are left.
-/

namespace MachiningViewer.Json

/-- What a tree holds, unless it breaks the grammar right where it starts. -/
def Tree.found : Tree → Except Fault Found
  | .null => .ok .nothing
  | .boolean b => .ok (.boolean b)
  | .number (.integer i) => .ok (.integer i)
  | .number (.double x) => .ok (.double x)
  | .number .outOfRange => .error .outOfRange
  | .string s => s.map .text
  | .array _ _ => .ok .list
  | .object _ _ => .ok .table
  | .misnamed _ => .ok .table
  | .broken => .error .malformed

/-- The fault of a tree that is not what is wanted. -/
def Tree.mismatch (t : Tree) (wanted : Wanted) : Except Fault α :=
  match t.found with
  | .ok found => .error (.wrongType found wanted)
  | .error fault => .error fault

/-- A natural number of 64 bits. -/
def Tree.natural (t : Tree) : Except Fault Nat :=
  match t with
  | .number (.integer i) =>
    if i < 0 then .error (.wrongValue (.integer i) .natural) else .ok i.toNat
  | t => t.mismatch .natural

/-- A double. Integers are rounded to the nearest one. -/
def Tree.double (t : Tree) : Except Fault Float :=
  match t with
  | .number (.integer i) => .ok (Float.ofInt i)
  | .number (.double x) => .ok x
  | t => t.mismatch .double

/-- A text. -/
def Tree.text (t : Tree) : Except Fault String :=
  match t with
  | .string s => s
  | t => t.mismatch .text

/-- A value that may be null. -/
def Tree.optional (read : Tree → Except Fault α) : Tree → Except Fault (Option α)
  | .null => .ok none
  | t => (read t).map some

/-- A table of any values, inside `depth` open arrays and objects. -/
def Tree.table (depth : Nat) (t : Tree) : Except Fault (List (String × Value)) :=
  match t with
  | .object members closed => do
    let ms ← memberValues (depth + 1) members
    if closed then return Members.ofList ms else throw .malformed
  | .misnamed _ => .error .malformed
  | t => t.mismatch .table

/-- Reads values one after the other, as far as there is no fault. -/
def readAll (read : Tree → Except Fault α) : List Tree → Except Fault (List α)
  | [] => .ok []
  | t :: ts => do
    let a ← read t
    let as ← readAll read ts
    return a :: as

/-- A list whose items are read by `read`. -/
def Tree.list (read : Tree → Except Fault α) (t : Tree) : Except Fault (List α) :=
  match t with
  | .array items closed => do
    let as ← readAll read items
    if closed then return as else throw .malformed
  | t => t.mismatch .list

/-! ### Choices -/

/-- A choice: its name, or an object whose only member has that name and the value null. -/
def Tree.choice (table : List (String × α)) (t : Tree) : Except Fault α :=
  match t with
  | .string name => do choose table (← name)
  | .object ((name, value) :: rest) closed => do
    let a ← choose table (← name)
    match value with
    | .null =>
      if !rest.isEmpty then throw .noChoice
      else if closed then return a else throw .malformed
    | value => value.mismatch .nothing
  | .object [] closed => .error (if closed then .noChoice else .malformed)
  | .misnamed name => name.mismatch .choiceName
  | .broken => .error .malformed
  | _ => .error .noChoice

/-! ### Records -/

section

variable {Field Slots : Type}

/-- Reads the members of an object in turn. Skipped members need only keep to the grammar. -/
def fillFromMembers (s : Schema Tree Field Slots) (slots : Slots) :
    List (Except Fault String × Tree) → Except Fault Slots
  | [] => .ok slots
  | (.error fault, _) :: _ => .error fault
  | (.ok name, t) :: ms =>
    match s.field? name with
    | none => if t.isWhole then fillFromMembers s slots ms else .error .malformed
    | some f =>
      if s.has slots f then .error (.duplicateField (s.label f))
      else do
        let slots ← s.put slots f t
        fillFromMembers s slots ms

/-- Reads the items of a list as the given fields, `index` others before them. -/
def fillFromItems (s : Schema Tree Field Slots) (closed : Bool) (index : Nat) (slots : Slots) :
    List Field → List Tree → Except Fault Slots
  | [], [] => if closed then .ok slots else .error .malformed
  | [], _ :: _ => .error .excess
  | f :: fs, [] =>
    if !closed then .error .malformed
    else if s.isOptional f then fillFromItems s closed (index + 1) slots fs []
    else .error (.wrongLength index (.fields s.name s.fields.length))
  | f :: fs, t :: ts => do
    let slots ← s.put slots f t
    fillFromItems s closed (index + 1) slots fs ts

/-- Reads the fields of a record that is written either way. -/
def Tree.record (s : Schema Tree Field Slots) (t : Tree) : Except Fault Slots :=
  match t with
  | .object members closed => do
    let slots ← fillFromMembers s s.empty members
    if closed then return slots else throw .malformed
  | .misnamed _ => .error .malformed
  | .array items closed => fillFromItems s closed 0 s.empty s.fields items
  | t => t.mismatch (.record s.name)

end

/-- Decodes a text that is one value. -/
def decode (read : Tree → Except Fault α) (text : String) : Except Fault α := do
  let (t, ends) := Tree.read text
  let a ← read t
  if ends then return a else throw .excess

/-- The message of a fault in a JSON text. -/
def faultMessage (f : Fault) : String :=
  f.message numberLayout.write

end MachiningViewer.Json
