import MachiningViewer.Json.Tree
import MachiningViewer.Number.Shortest

/-!
# JSON values

The values that a JSON text denotes, and their canonical text. The names in an object are distinct:
of members with one name the last one counts (`Members.insert`).
-/

namespace MachiningViewer.Json

/-- A JSON value. Integers are kept apart from doubles, for they are exact. -/
inductive Value where
  | null
  | boolean (b : Bool)
  | integer (i : Int)
  | double (x : Float)
  | string (s : String)
  | array (items : List Value)
  | object (members : List (String × Value))
  deriving Repr, Inhabited

/-- Gives a name a value: in its old place if the name is known, behind all others if it is new. -/
def Members.insert (name : String) (value : α) : List (String × α) → List (String × α)
  | [] => [(name, value)]
  | (n, v) :: ms => if n = name then (n, value) :: ms else (n, v) :: insert name value ms

/-- The members in order, those with one name made one. -/
def Members.ofList (ms : List (String × α)) : List (String × α) :=
  ms.foldl (fun acc (n, v) => Members.insert n v acc) []

/-- How many arrays and objects can be open at once, and one more. -/
def depthLimit : Nat := 128

mutual

/-- The value that a tree denotes inside `depth` open arrays and objects. There is none if the tree
does not keep to the grammar, holds a number out of range or half of a surrogate pair, or opens too
many arrays and objects; the first of these in the order of the text is the fault. -/
def Tree.value (depth : Nat) : Tree → Except Fault Value
  | .null => .ok .null
  | .boolean b => .ok (.boolean b)
  | .number (.integer i) => .ok (.integer i)
  | .number (.double x) => .ok (.double x)
  | .number .outOfRange => .error .outOfRange
  | .string s => s.map .string
  | .array items closed =>
    if depth + 1 < depthLimit then do
      let vs ← values (depth + 1) items
      if closed then return .array vs else throw .malformed
    else .error .tooDeep
  | .object members closed =>
    if depth + 1 < depthLimit then do
      let ms ← memberValues (depth + 1) members
      if closed then return .object (Members.ofList ms) else throw .malformed
    else .error .tooDeep
  | .misnamed _ => if depth + 1 < depthLimit then .error .malformed else .error .tooDeep
  | .broken => .error .malformed

/-- The values of the items of an array. -/
def values (depth : Nat) : List Tree → Except Fault (List Value)
  | [] => .ok []
  | t :: ts => do
    let v ← t.value depth
    let vs ← values depth ts
    return v :: vs

/-- The members of an object in the order of the text. -/
def memberValues (depth : Nat) :
    List (Except Fault String × Tree) → Except Fault (List (String × Value))
  | [] => .ok []
  | (name, t) :: ms => do
    let n ← name
    let v ← t.value depth
    let vs ← memberValues depth ms
    return (n, v) :: vs

end

/-! ### Canonical text -/

/-- How JSON texts lay out doubles: positional notation from `0.00001` to below ten thousand million
million, else an exponent with its sign. -/
def numberLayout : FloatLayout where
  positionalFrom := -5
  positionalTo := 15
  exponentPlus := true
  exponentWidth := 1

/-- A hexadecimal digit in lower case. -/
def hexChar (n : Nat) : Char := Nat.digitChar n

/-- A character as it is written inside a string. -/
def writeChar (c : Char) : List Char :=
  if c = '"' then ['\\', '"']
  else if c = '\\' then ['\\', '\\']
  else if c = '\x08' then ['\\', 'b']
  else if c = '\x0c' then ['\\', 'f']
  else if c = '\n' then ['\\', 'n']
  else if c = '\r' then ['\\', 'r']
  else if c = '\t' then ['\\', 't']
  else if c.toNat < 0x20 then ['\\', 'u', '0', '0', hexChar (c.toNat / 16), hexChar (c.toNat % 16)]
  else [c]

/-- A string between its quotation marks. -/
def writeString (s : String) : List Char :=
  '"' :: s.toList.flatMap writeChar ++ ['"']

/-- An integer in decimal. -/
def writeInteger (i : Int) : List Char :=
  if i < 0 then '-' :: Nat.toDigits 10 i.natAbs else Nat.toDigits 10 i.natAbs

mutual

/-- The canonical text of a value, without blanks. -/
def Value.write : Value → List Char
  | .null => "null".toList
  | .boolean b => if b then "true".toList else "false".toList
  | .integer i => writeInteger i
  | .double x => (numberLayout.write x).toList
  | .string s => writeString s
  | .array items => '[' :: writeItems items ++ [']']
  | .object members => '\x7b' :: writeMembers members ++ ['\x7d']

/-- The items of an array with commas between them. -/
def writeItems : List Value → List Char
  | [] => []
  | [v] => v.write
  | v :: vs => v.write ++ ',' :: writeItems vs

/-- The members of an object with commas between them. -/
def writeMembers : List (String × Value) → List Char
  | [] => []
  | [(n, v)] => writeString n ++ ':' :: v.write
  | (n, v) :: ms => writeString n ++ ':' :: v.write ++ ',' :: writeMembers ms

end

end MachiningViewer.Json
