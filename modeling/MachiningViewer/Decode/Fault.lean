import MachiningViewer.Number.Shortest
import MachiningViewer.Text.Visible

/-!
# Why a document does not decode

A document either breaks the grammar of its format, or it is well formed and holds something that
cannot be taken, or something else than what is asked for. `Fault` lists the causes, and
`Fault.message` words them. All breaches of the grammar are one cause here. What a well-formed
document can be refused for has a cause of its own each.
-/

namespace MachiningViewer

/-- What a document holds at some place. -/
inductive Found where
  | nothing
  | boolean (b : Bool)
  | integer (i : Int)
  | double (x : Float)
  | text (s : String)
  | list
  | table
  deriving Repr

/-- What is asked for at some place. -/
inductive Wanted where
  | natural
  | double
  | text
  | nothing
  | list
  | table
  | pair
  | choiceName
  | record (name : String)
  /-- A record with its number of fields, where it is given as a list of them. -/
  | fields (name : String) (count : Nat)
  deriving DecidableEq, Repr

/-- Why a document does not decode. -/
inductive Fault where
  /-- The document breaks the grammar of its format. -/
  | malformed
  /-- The first half of a surrogate pair stands without a second one behind it. -/
  | brokenPair
  /-- Half of a surrogate pair stands in the wrong place. -/
  | loneHalf
  /-- More lists and tables are open at once than may be. -/
  | tooDeep
  /-- A number is beyond the doubles. -/
  | outOfRange
  /-- There is more where an end is wanted. -/
  | excess
  /-- There is something that is written like no choice. -/
  | noChoice
  | missingField (name : String)
  | duplicateField (name : String)
  | unknownChoice (name : String) (choices : List String)
  /-- There is something of another type. -/
  | wrongType (found : Found) (wanted : Wanted)
  /-- The type is right, but its range is larger than what is asked for. -/
  | wrongValue (found : Found) (wanted : Wanted)
  | wrongLength (length : Nat) (wanted : Wanted)
  deriving Repr

/-! ### Wording -/

/-- Words between backquotes. -/
def quoted (s : String) : String :=
  "\x60" ++ s ++ "\x60"

/-- The escape of a character that does not stand for itself between quotation marks, if it has
one of its own. -/
def shortEscape? (c : Char) : Option String :=
  if c = '"' then some "\\\""
  else if c = '\\' then some "\\\\"
  else if c = '\n' then some "\\n"
  else if c = '\r' then some "\\r"
  else if c = '\t' then some "\\t"
  else if c = '\x00' then some "\\0"
  else none

/-- The number of a character in hexadecimal, between braces. -/
def bracedHex (c : Char) : String :=
  "\\u\x7b" ++ String.ofList (Nat.toDigits 16 c.toNat) ++ "\x7d"

/-- A text between quotation marks, with escapes for what would not show. -/
def shown (s : String) : String :=
  "\"" ++ String.join (s.toList.map fun c =>
    match shortEscape? c with
    | some e => e
    | none => if Text.isVisible c then String.singleton c else bracedHex c) ++ "\""

/-- What is found, in words. Formats differ in how they write numbers. -/
def Found.label (numbers : Float → String) : Found → String
  | .nothing => "null"
  | .boolean b => "boolean " ++ quoted (if b then "true" else "false")
  | .integer i => "integer " ++ quoted (toString i)
  | .double x => "floating point " ++ quoted (numbers x)
  | .text s => "string " ++ shown s
  | .list => "sequence"
  | .table => "map"

/-- What is wanted, in words. -/
def Wanted.label : Wanted → String
  | .natural => "u64"
  | .double => "f64"
  | .text => "a string"
  | .nothing => "unit"
  | .list => "a sequence"
  | .table => "a map"
  | .pair => "an array of length 2"
  | .choiceName => "variant identifier"
  | .record name => "struct " ++ name
  | .fields name count => "struct " ++ name ++ " with " ++ toString count ++
      (if count = 1 then " element" else " elements")

/-- The message for a fault, given how the document's format writes numbers. -/
def Fault.message (numbers : Float → String) : Fault → String
  | .malformed => "malformed text"
  | .brokenPair => "unexpected end of hex escape"
  | .loneHalf => "lone leading surrogate in hex escape"
  | .tooDeep => "recursion limit exceeded"
  | .outOfRange => "number out of range"
  | .excess => "trailing characters"
  | .noChoice => "expected value"
  | .missingField name => "missing field " ++ quoted name
  | .duplicateField name => "duplicate field " ++ quoted name
  | .unknownChoice name choices => "unknown variant " ++ quoted name ++ ", expected one of " ++
      ", ".intercalate (choices.map quoted)
  | .wrongType found wanted =>
    "invalid type: " ++ found.label numbers ++ ", expected " ++ wanted.label
  | .wrongValue found wanted =>
    "invalid value: " ++ found.label numbers ++ ", expected " ++ wanted.label
  | .wrongLength length wanted =>
    "invalid length " ++ toString length ++ ", expected " ++ wanted.label

end MachiningViewer
