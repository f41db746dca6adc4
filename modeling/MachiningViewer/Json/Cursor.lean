import MachiningViewer.Json.Complaint

/-!
# Reading JSON with an eye on the place

A `Cursor` is a place in a text: what follows it and how many bytes lie before it. The readers of
this module take a word, a number or a string at a cursor and answer with the cursor behind it, or
refuse to go on.

A complaint is placed where reading stopped: `here`, or behind the next byte (`ahead`) if it was
that byte which could not come here.
-/

namespace MachiningViewer.Json

open Text (isAsciiDigit)

/-- A place in a text. -/
structure Cursor where
  /-- What follows the place. -/
  rest : List Char
  /-- How many bytes lie before it. -/
  offset : Nat
  deriving Repr

/-- Why reading stops. -/
inductive Refusal where
  | placed (r : Report)
  /-- The fault is of a list or an object as a whole. Its place is where that is left, and reading
  stopped at the cursor. -/
  | pending (f : Fault) (c : Cursor)
  deriving Repr

namespace Cursor

/-- The start of a text. -/
def ofText (text : String) : Cursor := ⟨text.toList, 0⟩

/-- Passes over a character. -/
def advance (c : Cursor) : Cursor :=
  match c.rest with
  | [] => c
  | x :: xs => ⟨xs, c.offset + x.utf8Size⟩

/-- Passes over all characters from here on that have a property, all of them of one byte. -/
def skipWhile (p : Char → Bool) (c : Cursor) : Cursor :=
  ⟨c.rest.dropWhile p, c.offset + (c.rest.takeWhile p).length⟩

/-- Passes over blanks. -/
def skipSpace (c : Cursor) : Cursor :=
  c.skipWhile isSpace

/-- Passes over blanks, and over a character if it comes next. -/
def past (x : Char) (c : Cursor) : Cursor :=
  let c := c.skipSpace
  if c.rest.head? = some x then c.advance else c

/-- A complaint about what has been read. -/
def here (complaint : Complaint) (c : Cursor) : Refusal :=
  .placed ⟨complaint, c.offset⟩

/-- A complaint about the next byte, or about there being none. -/
def ahead (complaint : Complaint) (c : Cursor) : Refusal :=
  .placed ⟨complaint, if c.rest.isEmpty then c.offset else c.offset + 1⟩

/-- Passes over blanks, in front of something that must come. -/
def next (atEnd : Complaint) (c : Cursor) : Except Refusal (Char × Cursor) :=
  let c := c.skipSpace
  match c.rest with
  | [] => .error (c.ahead atEnd)
  | x :: _ => .ok (x, c)

/-! ### Words -/

/-- Reads the letters of a word. -/
def word (c : Cursor) : List Char → Except Refusal Cursor
  | [] => .ok c
  | w :: ws =>
    match c.rest with
    | [] => .error (c.ahead .endOfValue)
    | x :: _ => if x = w then c.advance.word ws else .error (c.ahead .wordWanted)

/-! ### Numbers -/

/-- Reads digits, of which there must be one. -/
def digits (atEnd : Complaint) (c : Cursor) : Except Refusal Cursor :=
  match c.rest with
  | [] => .error (c.ahead atEnd)
  | x :: _ =>
    if isAsciiDigit x then .ok (c.skipWhile isAsciiDigit) else .error (c.ahead .badNumber)

/-- Reads the digits of a number in front of its point. No other may follow a leading zero. -/
def whole (atEnd : Complaint) (c : Cursor) : Except Refusal Cursor :=
  match c.rest with
  | '0' :: x :: _ => if isAsciiDigit x then .error (c.advance.ahead .badNumber) else .ok c.advance
  | _ => c.digits atEnd

/-- Reads the fraction of a number, if it has one. -/
def fraction (atEnd : Complaint) (c : Cursor) : Except Refusal Cursor :=
  match c.rest with
  | '.' :: _ => c.advance.digits atEnd
  | _ => .ok c

/-- Passes over the letter of an exponent and its sign, if there is an exponent. -/
def exponentMark? (c : Cursor) : Option Cursor :=
  match c.rest with
  | x :: _ =>
    if x = 'e' ∨ x = 'E' then
      let c := c.advance
      some (if c.rest.head? = some '+' ∨ c.rest.head? = some '-' then c.advance else c)
    else none
  | [] => none

/-- Reads the exponent of a number, if it has one. -/
def exponent (atEnd : Complaint) (c : Cursor) : Except Refusal Cursor :=
  match c.exponentMark? with
  | some c => c.digits atEnd
  | none => .ok c

/-- Reads a number up to its exponent. -/
def mantissa (atEnd : Complaint) (c : Cursor) : Except Refusal Cursor := do
  let c := if c.rest.head? = some '-' then c.advance else c
  let c ← c.whole atEnd
  c.fraction atEnd

/-- Reads a number of any size. -/
def anyNumber (atEnd : Complaint) (c : Cursor) : Except Refusal Cursor := do
  (← c.mantissa atEnd).exponent atEnd

/-- The greatest exponent that is read as it stands. -/
def greatestExponent : Nat := twoTo 31 - 1

/-- The cursor behind the first digit with which an exponent becomes greater than the greatest one,
or behind the last digit. -/
def behindExponent (value : Nat) (c : Cursor) : List Char → Cursor
  | [] => c
  | d :: ds =>
    let value := 10 * value + (d.toNat - 48)
    if greatestExponent < value then c.advance else behindExponent value c.advance ds

/-- Reads a number that is wanted. One whose magnitude is beyond the doubles is complained about as
soon as that is known. -/
def number (c : Cursor) : Except Refusal (Number × Cursor) := do
  let front ← c.mantissa .endOfValue
  let behind ← front.exponent .endOfValue
  match Number.read? c.rest with
  | some (.outOfRange, _) =>
    match front.exponentMark? with
    | some start =>
      let place := behindExponent 0 start (start.rest.takeWhile isAsciiDigit)
      throw (place.here (.content .outOfRange))
    | none => throw (behind.here (.content .outOfRange))
  | some (n, _) => pure (n, behind)
  | none => throw (behind.here .badNumber)

/-! ### Strings -/

/-- The complaint about an escape whose four digits, which are not all there, would start here. -/
def badHex (offset : Nat) (rest : List Char) : Refusal :=
  let bytes := rest.foldl (fun n x => n + x.utf8Size) 0
  if bytes < 4 then .placed ⟨.endOfString, offset + bytes⟩ else .placed ⟨.unknownEscape, offset + 4⟩

/-- Reads a string behind its opening quotation mark. A string that is wanted (`strict`) must not
hold half of a surrogate pair; the first half of one stands in front of the place if `half` is true,
and then the second has to follow. -/
def stringFrom (strict half : Bool) (offset : Nat) : List Char → Except Refusal Cursor
  | [] => .error (.placed ⟨.endOfString, offset⟩)
  | '\\' :: 'u' :: rest =>
    match rest with
    | a :: b :: c :: d :: tail =>
      match hex4? a b c d with
      | none => .error (badHex (offset + 2) rest)
      | some n =>
        if strict && (isLowSurrogate n != half) then
          .error (.placed ⟨.content .loneHalf, offset + 6⟩)
        else stringFrom strict (strict && isHighSurrogate n) (offset + 6) tail
    | _ => .error (badHex (offset + 2) rest)
  | ['\\'] => .error (.placed ⟨.endOfString, offset + 1⟩)
  | '\\' :: e :: rest =>
    if half then .error (.placed ⟨.content .brokenPair, offset + 2⟩)
    else if (escaped? e).isNone then .error (.placed ⟨.unknownEscape, offset + 2⟩)
    else stringFrom strict false (offset + 2) rest
  | x :: rest =>
    if half then .error (.placed ⟨.content .brokenPair, offset + 1⟩)
    else if x = '"' then .ok ⟨rest, offset + 1⟩
    else if x.toNat < 0x20 then
      .error (.placed ⟨.controlCharacter, if strict then offset + 1 else offset⟩)
    else stringFrom strict false (offset + x.utf8Size) rest

/-- Reads a string at its opening quotation mark. -/
def anyString (strict : Bool) (c : Cursor) : Except Refusal Cursor :=
  let c := c.advance
  stringFrom strict false c.offset c.rest

/-- Reads a string that is wanted. -/
def string (c : Cursor) : Except Refusal (String × Cursor) := do
  let behind ← c.anyString true
  match readString? c.advance.rest with
  | some (.ok s, _) => pure (s, behind)
  | _ => throw (behind.here .endOfString)

/-! ### What is not wanted -/

/-- What stands at a cursor that is in front of a character. Lists and objects are not entered. -/
def found (c : Cursor) : Except Refusal (Found × Cursor) :=
  match c.rest with
  | 'n' :: _ => do pure (.nothing, ← c.advance.word "ull".toList)
  | 't' :: _ => do pure (.boolean true, ← c.advance.word "rue".toList)
  | 'f' :: _ => do pure (.boolean false, ← c.advance.word "alse".toList)
  | '"' :: _ => do
    let (s, c) ← c.string
    pure (.text s, c)
  | '[' :: _ => pure (.list, c)
  | '\x7b' :: _ => pure (.table, c)
  | x :: _ =>
    if x = '-' || isAsciiDigit x then do
      match ← c.number with
      | (.integer i, c) => pure (.integer i, c)
      | (.double x, c) => pure (.double x, c)
      | (.outOfRange, c) => throw (c.here (.content .outOfRange))
    else .error (c.ahead .valueWanted)
  | [] => .error (c.ahead .valueWanted)

/-- The refusal of what stands at a cursor, where something else is wanted. -/
def mismatch (wanted : Wanted) (c : Cursor) : Refusal :=
  match c.found with
  | .ok (found, c) => c.here (.content (.wrongType found wanted))
  | .error refusal => refusal

end Cursor

end MachiningViewer.Json
