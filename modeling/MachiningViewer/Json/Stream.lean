import MachiningViewer.Json.Skip

/-!
# Records read in the order of the text

Readers of numbers, pairs of numbers and records that work on a `Cursor` and so can tell the place
of every fault. A record is written as an object or as the list of its fields, as `Schema` describes
it.
-/

namespace MachiningViewer.Json.Cursor

/-! ### Lists and objects -/

/-- The next item of a list, at the cursor behind the comma in front of it, or the end of the list
at the cursor in front of the bracket. -/
def nextItem (isFirst : Bool) (c : Cursor) : Except Refusal (Bool × Cursor) := do
  let (x, c) ← c.next .endOfList
  if x = ']' then pure (false, c)
  else if isFirst then pure (true, c)
  else if x = ',' then
    let (x, c) ← c.advance.next .endOfValue
    if x = ']' then throw (c.ahead .trailingComma)
    pure (true, c)
  else throw (c.ahead .commaOrEndOfListWanted)

/-- The name of the next member of an object, at the cursor in front of its quotation mark, or the
end of the object at the cursor in front of the brace. -/
def nextName (isFirst : Bool) (c : Cursor) : Except Refusal (Bool × Cursor) := do
  let (x, c) ← c.next .endOfObject
  if x = '\x7d' then pure (false, c)
  else if isFirst then
    if x = '"' then pure (true, c) else throw (c.ahead .nameWanted)
  else if x = ',' then
    let (x, c) ← c.advance.next .endOfValue
    if x = '"' then pure (true, c)
    else if x = '\x7d' then throw (c.ahead .trailingComma)
    else throw (c.ahead .nameWanted)
  else throw (c.ahead .commaOrEndOfObjectWanted)

/-- Passes over the colon behind a name. -/
def colon (c : Cursor) : Except Refusal Cursor := do
  let (x, c) ← c.next .endOfObject
  if x = ':' then pure c.advance else throw (c.ahead .colonWanted)

/-- Leaves a list of which nothing more is wanted. -/
def leaveList (c : Cursor) : Except Refusal Cursor := do
  let (x, c) ← c.next .endOfList
  if x = ']' then pure c.advance
  else if x = ',' then
    let c := c.advance.skipSpace
    throw (c.ahead (if c.rest.head? = some ']' then .trailingComma else .trailingCharacters))
  else throw (c.ahead .trailingCharacters)

/-- Leaves an object of which nothing more is wanted. -/
def leaveObject (c : Cursor) : Except Refusal Cursor := do
  let (x, c) ← c.next .endOfObject
  if x = '\x7d' then pure c.advance
  else throw (c.ahead (if x = ',' then .trailingComma else .trailingCharacters))

/-- Leaves a list or an object after its content has been read. A fault of all of it gets its place
there. -/
def leaving (f : Frame) (read : Except Refusal (α × Cursor)) : Except Refusal (α × Cursor) :=
  match read with
  | .ok (a, c) => do pure (a, ← match f with | .list => c.leaveList | .object => c.leaveObject)
  | .error (.pending fault c) => .error ((c.past f.close).here (.content fault))
  | .error refusal => .error refusal

/-! ### Numbers and pairs -/

/-- A double. Integers are rounded to the nearest one. -/
def double (c : Cursor) : Except Refusal (Float × Cursor) := do
  let (x, c) ← c.next .endOfValue
  if x = '-' || Text.isAsciiDigit x then
    match ← c.number with
    | (.integer i, c) => pure (Float.ofInt i, c)
    | (.double x, c) => pure (x, c)
    | (.outOfRange, c) => throw (c.here (.content .outOfRange))
  else throw (c.mismatch .double)

/-- Two items of a list. -/
def twoDoubles (c : Cursor) : Except Refusal ((Float × Float) × Cursor) := do
  let (more, c) ← c.nextItem true
  if !more then throw (.pending (.wrongLength 0 .pair) c)
  let (a, c) ← c.double
  let (more, c) ← c.nextItem false
  if !more then throw (.pending (.wrongLength 1 .pair) c)
  let (b, c) ← c.double
  pure ((a, b), c)

/-- A list of exactly two doubles. -/
def pair (c : Cursor) : Except Refusal ((Float × Float) × Cursor) := do
  let (x, c) ← c.next .endOfValue
  if x = '[' then leaving .list c.advance.twoDoubles else throw (c.mismatch .pair)

/-! ### Records -/

section

variable {Source Field Slots : Type}

/-- Keeps what has been read, or leaves the fault to what is around it. -/
def orPending (c : Cursor) : Except Fault α → Except Refusal (α × Cursor)
  | .ok a => .ok (a, c)
  | .error fault => .error (.pending fault c)

variable (s : Schema Source Field Slots) (read : Cursor → Except Refusal (Source × Cursor))
  (finish : Slots → Except Fault α)

/-- Reads the value of a field. -/
def fieldValue (slots : Slots) (f : Field) (c : Cursor) : Except Refusal (Slots × Cursor) := do
  let (source, c) ← read c
  orPending c (s.put slots f source)

/-- Reads the items of a list as the given fields, `index` others before them. -/
def recordItems (index : Nat) (slots : Slots) (c : Cursor) :
    List Field → Except Refusal (α × Cursor)
  | [] => orPending c (finish slots)
  | f :: fs => do
    let (more, c) ← c.nextItem (index == 0)
    if more then
      let (slots, c) ← fieldValue s read slots f c
      recordItems (index + 1) slots c fs
    else if s.isOptional f then recordItems (index + 1) slots c fs
    else throw (.pending (.wrongLength index (.fields s.name s.fields.length)) c)

/-- Reads the members of an object. -/
def recordMembers : Nat → Bool → Slots → Cursor → Except Refusal (α × Cursor)
  | 0, _, _, c => .error (c.ahead .nameWanted)
  | fuel + 1, isFirst, slots, c => do
    let (more, c) ← c.nextName isFirst
    if more then
      let (name, c) ← c.string
      match s.field? name with
      | none => recordMembers fuel false slots (← (← c.colon).skipValue)
      | some f =>
        if s.has slots f then throw (.pending (.duplicateField (s.label f)) c)
        let (slots, c) ← fieldValue s read slots f (← c.colon)
        recordMembers fuel false slots c
    else orPending c (finish slots)

/-- Reads a record. Each member of an object uses up at least one character, so the number of
characters is fuel enough. -/
def record (c : Cursor) : Except Refusal (α × Cursor) := do
  let (x, c) ← c.next .endOfValue
  if x = '[' then leaving .list (recordItems s read finish 0 s.empty c.advance s.fields)
  else if x = '\x7b' then
    leaving .object (recordMembers s read finish (c.rest.length + 1) true s.empty c.advance)
  else throw (c.mismatch (.record s.name))

end

/-- Reads a text that is one value. -/
def readText (read : Cursor → Except Refusal (α × Cursor)) (text : String) : Except Report α :=
  match read (ofText text) with
  | .ok (a, c) =>
    let c := c.skipSpace
    if c.rest.isEmpty then .ok a else .error ⟨.trailingCharacters, c.offset + 1⟩
  | .error (.placed report) => .error report
  | .error (.pending fault c) => .error ⟨.content fault, c.offset⟩

end MachiningViewer.Json.Cursor
