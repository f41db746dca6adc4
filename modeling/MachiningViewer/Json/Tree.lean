import MachiningViewer.Decode.Fault
import MachiningViewer.Json.Number
import MachiningViewer.Text.Digit

/-!
# JSON texts, as far as they go

`Tree.read` never fails. It reads a JSON text into a tree up to the first place where the text
breaks the grammar, and the tree shows that place: a `broken` value, an array or object that is not
closed. Whoever decodes the tree walks it in the order of the text and therefore meets faults of
form and of content in the order in which they stand there.

Two things are left to the reader of the tree, because they depend on what the value is wanted for:
strings with half of a surrogate pair, which come with their fault, and numbers beyond the doubles.
Neither matters inside a value that is skipped.
-/

namespace MachiningViewer.Json

open Text

/-- A JSON text as far as it keeps to the grammar. -/
inductive Tree where
  | null
  | boolean (b : Bool)
  | number (n : Number)
  /-- A string, or what is wrong with it if it holds half of a surrogate pair. -/
  | string (s : Except Fault String)
  | array (items : List Tree) (closed : Bool)
  | object (members : List (Except Fault String × Tree)) (closed : Bool)
  /-- An object whose first member has another value in the place of its name. -/
  | misnamed (name : Tree)
  | broken
  deriving Repr

/-! ### White space -/

/-- The four blanks of JSON. -/
def isSpace (c : Char) : Bool :=
  c == ' ' || c == '\n' || c == '\t' || c == '\r'

/-- Drops the blanks at the front. -/
def skipSpace (cs : List Char) : List Char :=
  cs.dropWhile isSpace

/-! ### Strings -/

/-- A piece of a string: a character, or a code unit of UTF-16 that was given by its number. -/
inductive Piece where
  | char (c : Char)
  | unit (n : Nat)
  deriving DecidableEq, Repr

/-- The number that four hexadecimal digits denote. -/
def hex4? (a b c d : Char) : Option Nat :=
  Text.hexNumber? [a, b, c, d]

/-- The character that a letter stands for behind a backslash. -/
def escaped? (c : Char) : Option Char :=
  if c = '"' then some '"'
  else if c = '\\' then some '\\'
  else if c = '/' then some '/'
  else if c = 'b' then some '\x08'
  else if c = 'f' then some '\x0c'
  else if c = 'n' then some '\n'
  else if c = 'r' then some '\r'
  else if c = 't' then some '\t'
  else none

/-- The pieces of a string behind its opening quotation mark, and what follows its closing one.
There is none if the string is not closed, holds a control character or an unknown escape. -/
def readPieces? : List Char → Option (List Piece × List Char)
  | [] => none
  | '"' :: r => some ([], r)
  | '\\' :: 'u' :: a :: b :: c :: d :: r =>
    match hex4? a b c d, readPieces? r with
    | some n, some (ps, r) => some (.unit n :: ps, r)
    | _, _ => none
  | '\\' :: e :: r =>
    match escaped? e, readPieces? r with
    | some c, some (ps, r) => some (.char c :: ps, r)
    | _, _ => none
  | c :: r =>
    if c.toNat < 0x20 || c == '\\' then none
    else
      match readPieces? r with
      | some (ps, r) => some (.char c :: ps, r)
      | none => none

/-- Is a code unit the first half of a surrogate pair? -/
def isHighSurrogate (n : Nat) : Bool := 0xD800 ≤ n && n < 0xDC00

/-- Is a code unit the second half of a surrogate pair? -/
def isLowSurrogate (n : Nat) : Bool := 0xDC00 ≤ n && n < 0xE000

/-- The characters of a list of pieces. There are none if half of a surrogate pair stands alone. -/
def characters : List Piece → Except Fault (List Char)
  | [] => .ok []
  | .char c :: ps => (characters ps).map (c :: ·)
  | .unit high :: .unit low :: ps =>
    if isHighSurrogate high then
      if isLowSurrogate low then
        (characters ps).map (Char.ofNat (0x10000 + (high - 0xD800) * 0x400 + (low - 0xDC00)) :: ·)
      else .error .loneHalf
    else if isLowSurrogate high then .error .loneHalf
    else (characters (.unit low :: ps)).map (Char.ofNat high :: ·)
  | .unit n :: ps =>
    if isHighSurrogate n then .error .brokenPair
    else if isLowSurrogate n then .error .loneHalf
    else (characters ps).map (Char.ofNat n :: ·)

/-- The string behind an opening quotation mark, and what follows it. -/
def readString? (cs : List Char) : Option (Except Fault String × List Char) :=
  (readPieces? cs).map fun (ps, r) => ((characters ps).map String.ofList, r)

/-! ### Values -/

/-- What follows `word`, if the text starts with it. -/
def afterLiteral? (word cs : List Char) : Option (List Char) :=
  if word.isPrefixOf cs then some (cs.drop word.length) else none

/-- A value that is written as a word, and what follows it. -/
def readLiteral (word : List Char) (value : Tree) (cs : List Char) : Tree × List Char :=
  match afterLiteral? word cs with
  | some r => (value, r)
  | none => (.broken, [])

mutual

/-- The value at the front of a text, behind blanks, and what follows it. Each step into a value
uses up at least one character, so the number of characters is fuel enough. -/
def readValue : Nat → List Char → Tree × List Char
  | 0, _ => (.broken, [])
  | fuel + 1, cs =>
    match skipSpace cs with
    | [] => (.broken, [])
    | 'n' :: r => readLiteral "ull".toList .null r
    | 't' :: r => readLiteral "rue".toList (.boolean true) r
    | 'f' :: r => readLiteral "alse".toList (.boolean false) r
    | '"' :: r =>
      match readString? r with
      | some (s, r) => (.string s, r)
      | none => (.broken, [])
    | '[' :: r =>
      match skipSpace r with
      | ']' :: r => (.array [] true, r)
      | r =>
        let (items, closed, r) := readItems fuel r
        (.array items closed, r)
    | '\x7b' :: r =>
      match skipSpace r with
      | '\x7d' :: r => (.object [] true, r)
      | '"' :: r =>
        let (members, closed, r) := readMembers fuel r
        (.object members closed, r)
      | r => (.misnamed (readValue fuel r).1, [])
    | r =>
      match Number.read? r with
      | some (n, r) => (.number n, r)
      | none => (.broken, [])

/-- The values of an array from the next one on, whether the array is closed, and what follows it.
-/
def readItems : Nat → List Char → List Tree × Bool × List Char
  | 0, _ => ([.broken], false, [])
  | fuel + 1, cs =>
    let (item, r) := readValue fuel cs
    match skipSpace r with
    | ']' :: r => ([item], true, r)
    | ',' :: r =>
      match skipSpace r with
      | ']' :: _ => ([item], false, [])
      | r =>
        let (items, closed, r) := readItems fuel r
        (item :: items, closed, r)
    | _ => ([item], false, [])

/-- The members of an object from the name of the next one on, whose opening quotation mark is
already read, whether the object is closed, and what follows it. -/
def readMembers : Nat → List Char → List (Except Fault String × Tree) × Bool × List Char
  | 0, _ => ([], false, [])
  | fuel + 1, cs =>
    match readString? cs with
    | none => ([], false, [])
    | some (name, r) =>
      match skipSpace r with
      | ':' :: r =>
        let (value, r) := readValue fuel r
        match skipSpace r with
        | '\x7d' :: r => ([(name, value)], true, r)
        | ',' :: r =>
          match skipSpace r with
          | '"' :: r =>
            let (members, closed, r) := readMembers fuel r
            ((name, value) :: members, closed, r)
          | _ => ([(name, value)], false, [])
        | _ => ([(name, value)], false, [])
      | _ => ([(name, .broken)], false, [])

end

/-- Reads a text that is one value. Anything but blanks behind it makes the second part false. -/
def Tree.read (text : String) : Tree × Bool :=
  let cs := text.toList
  let (t, r) := readValue (cs.length + 1) cs
  (t, (skipSpace r).isEmpty)

/-! ### Skipped values -/

mutual

/-- Does the value keep to the grammar to its end? -/
def Tree.isWhole : Tree → Bool
  | .broken => false
  | .misnamed _ => false
  | .array items closed => areWhole items && closed
  | .object members closed => haveWhole members && closed
  | _ => true

/-- Do all the values keep to the grammar? -/
def areWhole : List Tree → Bool
  | [] => true
  | t :: ts => t.isWhole && areWhole ts

/-- Do the values of all the members keep to the grammar? -/
def haveWhole : List (Except Fault String × Tree) → Bool
  | [] => true
  | (_, t) :: ms => t.isWhole && haveWhole ms

end

end MachiningViewer.Json
