import MachiningViewer.Http.Domain.Direction
import MachiningViewer.Http.Domain.Joining
import MachiningViewer.Http.Domain.Punycode
import MachiningViewer.Http.Domain.Spelling

/-!
# Names of hosts

A name consists of labels with dots between them. On the way to a host a name has characters of
ASCII only: a label with others is written in Punycode, behind the letters "xn" and two hyphens.

`ascii?` gives this form of a name, if it has one. The name is spelled first; a label that is in
Punycode already must be what its text would be written as. All labels are then held to the rules
for marks, joiners and directions.
-/

namespace MachiningViewer.Http.Domain

/-- A character that no name holds. -/
def isForbidden (c : Char) : Bool :=
  c.toNat ≤ 0x20 || c.toNat == 0x7F || "#%/:<>?@[\\]^|".toList.contains c

/-- What a label in Punycode begins with. -/
def codeMark : List Char := ['x', 'n', '-', '-']

/-- The longest text of a label that is written in Punycode. -/
def longestText : Nat := 1000

/-- The longest Punycode that is read. -/
def longestCode : Nat := 2000

/-- The characters are of ASCII. -/
def isAscii (cs : List Char) : Bool :=
  cs.all (·.toNat < 0x80)

/-- The text that a label shows. -/
def labelText? (label : List Char) : Option (List Char) := do
  if codeMark.isPrefixOf label then
    let code := label.drop codeMark.length
    guard (isAscii code && code.length ≤ longestCode && code.getLast?.any (· != '-'))
    let text ← Punycode.decode? code
    guard (spelled? text == some text && !text.contains '.' && !text.any isForbidden)
    pure text
  else pure label

/-- Does the text of a label keep to the rules for marks and joiners? -/
def isWellFormed (text : List Char) : Bool :=
  !(text.head?.any Text.isMark) && areJoinersPlaced [] text &&
    (isAscii text || text.length ≤ longestText)

/-- Are the directions of all labels settled, if any of them runs from the right to the left? -/
def areSettled (texts : List (List Char)) : Bool :=
  let directions := texts.map (·.map Direction.ofChar)
  !directions.any (·.any Direction.isFromRight) || directions.all Direction.isSettled

/-- A label as it is written on the way. -/
def labelAscii (label : List Char) : List Char :=
  if isAscii label then label else codeMark ++ Punycode.encode label

/-- The form of a name in characters of ASCII. -/
def ascii? (name : List Char) : Option (List Char) := do
  let spelling ← spelled? name
  guard (!spelling.any isForbidden)
  let labels := spelling.splitOn '.'
  let texts ← labels.mapM labelText?
  guard (texts.all isWellFormed && areSettled texts)
  pure (['.'].intercalate (labels.map labelAscii))

end MachiningViewer.Http.Domain
