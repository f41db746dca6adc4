import MachiningViewer.Number.Binary64
import MachiningViewer.Toml.Layout
import MachiningViewer.Toml.Moment
import MachiningViewer.Toml.Table

/-!
# TOML scalars

The values that are one word: truth values, integers, doubles, dates and times. The longest run of
characters of which words are made decides, so a word is read as a whole or not at all. Only a date
and a time may be two words.
-/

namespace MachiningViewer.Toml

open Text (isAsciiDigit isAsciiLetter)

/-- A character of which words are made. -/
def isWordChar (c : Char) : Bool :=
  isAsciiLetter c || isAsciiDigit c || "+-._:".toList.contains c

/-! ### Digits -/

/-- Digits with single underscores between them, without the underscores. There is at least one. -/
def digits? (isDigit : Char → Bool) : List Char → Option (List Char)
  | [] => none
  | [c] => if isDigit c then some [c] else none
  | c :: '_' :: rest => if isDigit c then (digits? isDigit rest).map (c :: ·) else none
  | c :: rest => if isDigit c then (digits? isDigit rest).map (c :: ·) else none

/-- The value of a digit of a base up to sixteen. -/
def digitValue (c : Char) : Nat :=
  if c ≤ '9' then c.toNat - 0x30 else if c ≤ 'F' then c.toNat - 0x37 else c.toNat - 0x57

/-- The number that digits of a base make. -/
def valueOf (base : Nat) (ds : List Char) : Nat :=
  ds.foldl (fun n d => base * n + digitValue d) 0

/-- A digit of base sixteen. -/
def isHexDigit (c : Char) : Bool :=
  isAsciiDigit c || ('a' ≤ c && c ≤ 'f') || ('A' ≤ c && c ≤ 'F')

/-- The digits of a whole number in base ten, which has no needless zero in front. -/
def wholeDigits? (cs : List Char) : Option (List Char) :=
  match digits? isAsciiDigit cs with
  | some ('0' :: _ :: _) => none
  | ds => ds

/-! ### Integers -/

/-- An integer of 64 bits with its sign. -/
def ofMagnitude? (negative : Bool) (n : Nat) : Option Int :=
  if negative then if n ≤ twoTo 63 then some (-(n : Int)) else none
  else if n < twoTo 63 then some n
  else none

/-- Reads an integer: in base ten with or without a sign, in the bases sixteen, eight and two
without one. -/
def integer? : List Char → Option Int
  | '0' :: 'x' :: cs => (digits? isHexDigit cs).bind fun ds => ofMagnitude? false (valueOf 16 ds)
  | '0' :: 'o' :: cs =>
    (digits? (fun c => '0' ≤ c && c ≤ '7') cs).bind fun ds => ofMagnitude? false (valueOf 8 ds)
  | '0' :: 'b' :: cs =>
    (digits? (fun c => c == '0' || c == '1') cs).bind fun ds => ofMagnitude? false (valueOf 2 ds)
  | '-' :: cs => (wholeDigits? cs).bind fun ds => ofMagnitude? true (valueOf 10 ds)
  | '+' :: cs => (wholeDigits? cs).bind fun ds => ofMagnitude? false (valueOf 10 ds)
  | cs => (wholeDigits? cs).bind fun ds => ofMagnitude? false (valueOf 10 ds)

/-! ### Doubles -/

/-- The exponent of a double, behind its letter. -/
def exponent? : List Char → Option Int
  | '-' :: cs => (digits? isAsciiDigit cs).map fun ds => -(valueOf 10 ds : Int)
  | '+' :: cs => (digits? isAsciiDigit cs).map fun ds => (valueOf 10 ds : Int)
  | cs => (digits? isAsciiDigit cs).map fun ds => (valueOf 10 ds : Int)

/-- Is a character the letter of an exponent? -/
def isExponentLetter (c : Char) : Bool :=
  c == 'e' || c == 'E'

/-- The magnitude of a double that is written with a point, an exponent or both. -/
def magnitude? (cs : List Char) : Option Float := do
  let front := cs.takeWhile fun c => !isExponentLetter c
  let exponent ←
    match cs.dropWhile fun c => !isExponentLetter c with
    | [] => pure none
    | _ :: rest => (exponent? rest).map some
  let whole ← wholeDigits? (front.takeWhile (· ≠ '.'))
  let fraction ←
    match front.dropWhile (· ≠ '.') with
    | [] => pure none
    | _ :: rest => (digits? isAsciiDigit rest).map some
  guard (exponent.isSome || fraction.isSome)
  let fraction := fraction.getD []
  pure (nearestDouble (valueOf 10 (whole ++ fraction)) (exponent.getD 0 - fraction.length))

/-- A double without its sign. Positive numbers beyond the doubles are not accepted, negative ones
are infinite. -/
def unsignedDouble? (negative : Bool) (cs : List Char) : Option Float :=
  if cs = "inf".toList then some (1.0 / 0.0)
  else if cs = "nan".toList then some (0.0 / 0.0)
  else (magnitude? cs).filter fun x => negative || x.isFinite

/-- Reads a double. -/
def double? : List Char → Option Float
  | '-' :: cs => (unsignedDouble? true cs).map (- ·)
  | '+' :: cs => unsignedDouble? false cs
  | cs => unsignedDouble? false cs

/-! ### Words -/

/-- The value of a word. -/
def ofWord? (cs : List Char) : Option Value :=
  if cs = "true".toList then some (.boolean true)
  else if cs = "false".toList then some (.boolean false)
  else if Moment.isMoment cs then some (.moment (String.ofList cs))
  else
    match integer? cs with
    | some i => some (.integer i)
    | none => (double? cs).map .double

/-- The scalar at the front of a text, and what follows it. -/
def readScalar? (cs : List Char) : Option (Value × List Char) :=
  let word := cs.takeWhile isWordChar
  let rest := cs.dropWhile isWordChar
  match Moment.isDate word, rest with
  | true, ' ' :: more =>
    let next := more.takeWhile isWordChar
    if Moment.isTimeOfDate next then
      some (.moment (String.ofList (word ++ ' ' :: next)), more.dropWhile isWordChar)
    else some (.moment (String.ofList word), rest)
  | _, _ => (ofWord? word).map fun v => (v, rest)

end MachiningViewer.Toml
