import MachiningViewer.Json.Cursor

/-!
# Values that are skipped

A value that nobody wants is passed over with `Cursor.skipValue`. It only has to keep to the
grammar: its numbers may be of any size, its strings may hold halves of surrogate pairs, and its
lists and objects may be nested to any depth.
-/

namespace MachiningViewer.Json

/-- What is open around a place. -/
inductive Frame where
  | list
  | object
  deriving DecidableEq, Repr

namespace Frame

/-- The character that closes it. -/
def close : Frame → Char
  | .list => ']'
  | .object => '\x7d'

/-- The complaint where it ends too early. -/
def endTooEarly : Frame → Complaint
  | .list => .endOfList
  | .object => .endOfObject

/-- The complaint about what cannot follow an item. -/
def commaOrEndWanted : Frame → Complaint
  | .list => .commaOrEndOfListWanted
  | .object => .commaOrEndOfObjectWanted

end Frame

namespace Cursor

/-- Passes over a value that starts here, or over the bracket with which it opens. -/
def skipStart (x : Char) (c : Cursor) : Except Refusal (Option Frame × Cursor) := do
  if x = '[' then pure (some .list, c.advance)
  else if x = '\x7b' then pure (some .object, c.advance)
  else if x = 'n' then pure (none, ← c.advance.word "ull".toList)
  else if x = 't' then pure (none, ← c.advance.word "rue".toList)
  else if x = 'f' then pure (none, ← c.advance.word "alse".toList)
  else if x = '"' then pure (none, ← c.anyString false)
  else if x = '-' || Text.isAsciiDigit x then pure (none, ← c.anyNumber .badNumber)
  else throw (c.ahead .valueWanted)

/-- Passes over all brackets that close here, and over the comma behind them. In front of the first
item of what is open there is no comma. What is left is open still. -/
def skipClosing (isFirst : Bool) (c : Cursor) : List Frame → Except Refusal (List Frame × Cursor)
  | [] => .ok ([], c)
  | f :: fs => do
    let (x, c) ← c.next f.endTooEarly
    if x = f.close then skipClosing false c.advance fs
    else if isFirst then pure (f :: fs, c)
    else if x = ',' then pure (f :: fs, c.advance)
    else throw (c.ahead f.commaOrEndWanted)

/-- Passes over the name of a member and the colon behind it. -/
def skipName (c : Cursor) : Except Refusal Cursor := do
  let (x, c) ← c.next .endOfObject
  if x ≠ '"' then throw (c.ahead .nameWanted)
  let (x, c) ← (← c.anyString false).next .endOfObject
  if x ≠ ':' then throw (c.ahead .colonWanted)
  pure c.advance

/-- Passes over a value and all that follows it in what is open around it. -/
def skipAll : Nat → List Frame → Cursor → Except Refusal Cursor
  | 0, _, c => .error (c.ahead .valueWanted)
  | fuel + 1, frames, c => do
    let (x, c) ← c.next .endOfValue
    let (opened, c) ← c.skipStart x
    match ← c.skipClosing opened.isSome (opened.toList ++ frames) with
    | ([], c) => pure c
    | (.list :: frames, c) => skipAll fuel (.list :: frames) c
    | (.object :: frames, c) => do
      let c ← c.skipName
      skipAll fuel (.object :: frames) c

/-- Passes over a value. Each step into it uses up at least one character, so the number of
characters is fuel enough. -/
def skipValue (c : Cursor) : Except Refusal Cursor :=
  skipAll (c.rest.length + 1) [] c

end Cursor

end MachiningViewer.Json
