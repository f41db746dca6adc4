import MachiningViewer.Json.Record
import MachiningViewer.Text.Utf8

/-!
# Complaints about JSON texts

What a reader that goes through a text from front to back has to say when it cannot go on, and where
it was then. A place is a number of bytes, and is shown as a line and a column.
-/

namespace MachiningViewer.Json

/-- What is wrong with a text. -/
inductive Complaint where
  | endOfList
  | endOfObject
  | endOfString
  | endOfValue
  | colonWanted
  | commaOrEndOfListWanted
  | commaOrEndOfObjectWanted
  | wordWanted
  | valueWanted
  | nameWanted
  | unknownEscape
  | badNumber
  | controlCharacter
  | trailingComma
  | trailingCharacters
  /-- The text keeps to the grammar, but holds something that is not wanted. -/
  | content (f : Fault)
  deriving Repr

/-- The complaint in words. -/
def Complaint.message : Complaint → String
  | .endOfList => "EOF while parsing a list"
  | .endOfObject => "EOF while parsing an object"
  | .endOfString => "EOF while parsing a string"
  | .endOfValue => "EOF while parsing a value"
  | .colonWanted => "expected " ++ "\x60:\x60"
  | .commaOrEndOfListWanted => "expected \x60,\x60 or \x60]\x60"
  | .commaOrEndOfObjectWanted => "expected \x60,\x60 or \x60\x7d\x60"
  | .wordWanted => "expected ident"
  | .valueWanted => "expected value"
  | .nameWanted => "key must be a string"
  | .unknownEscape => "invalid escape"
  | .badNumber => "invalid number"
  | .controlCharacter => "control character (\\u0000-\\u001F) found while parsing a string"
  | .trailingComma => "trailing comma"
  | .trailingCharacters => "trailing characters"
  | .content f => faultMessage f

/-- A complaint with its place. -/
structure Report where
  complaint : Complaint
  /-- How many bytes of the text lie before the place. -/
  offset : Nat
  deriving Repr

/-- The line of the place that lies `offset` bytes into a text, and the bytes before it in that
line. -/
def lineAndColumn (offset : Nat) (text : List UInt8) : Nat × Nat :=
  let before := text.take offset
  (before.count 0x0A + 1, (before.reverse.takeWhile (· ≠ 0x0A)).length)

/-- The report about a text in words. -/
def Report.message (text : String) (r : Report) : String :=
  let (line, column) := lineAndColumn r.offset (Text.Utf8.encode text)
  r.complaint.message ++ " at line " ++ toString line ++ " column " ++ toString column

end MachiningViewer.Json
