import MachiningViewer.Toml.Quoted

/-!
# TOML keys

A key is a bare word or a string of one line. Keys with points between them lead from a table to the
tables inside it.
-/

namespace MachiningViewer.Toml

/-- A character of a bare key. -/
def isBareChar (c : Char) : Bool :=
  Text.isAsciiLetter c || Text.isAsciiDigit c || c == '-' || c == '_'

/-- The key at the front of a text, and what follows it. -/
def readSimpleKey? (cs : List Char) : Option (String × List Char) :=
  match readShortString? cs with
  | some result => some result
  | none =>
    let word := cs.takeWhile isBareChar
    if word.isEmpty then none else some (String.ofList word, cs.dropWhile isBareChar)

/-- The keys at the front of a text, with at most `more` points between them, and what follows them.
Spaces may stand around each. -/
def readKeys? (more : Nat) (cs : List Char) : Option (List String × List Char) :=
  match readSimpleKey? (skipSpace cs) with
  | none => none
  | some (key, rest) =>
    match more, skipSpace rest with
    | more + 1, '.' :: rest => (readKeys? more rest).map fun (keys, rest) => (key :: keys, rest)
    | 0, '.' :: _ => none
    | _, rest => some ([key], rest)

/-- How many keys with points between them there may be, and how deep values may be nested. -/
def mostLevels : Nat := 79

/-- The path at the front of a text, as the keys on the way and the last one, and what follows it.
-/
def readPath? (cs : List Char) : Option (List String × String × List Char) := do
  let (keys, rest) ← readKeys? (mostLevels - 1) cs
  let last ← keys.getLast?
  pure (keys.dropLast, last, rest)

end MachiningViewer.Toml
