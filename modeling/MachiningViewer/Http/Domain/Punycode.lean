/-!
# Punycode

A text is written in characters of ASCII as follows. First come those of its characters that are of
ASCII, with a hyphen behind them if there are any. The others are put in one after the other, in
the order of their code points and, for equal ones, of their places. For each of them a number says
how many steps a cursor takes to it: the cursor goes through all places of the text as it is so far,
and then begins anew with the next code point (`Cursor`). A number is written in digits of base 36,
from the lowest; a threshold for each place tells the last digit from the others, and the thresholds
follow the size of the numbers before (`threshold`, `nextBias`).

`decode?` reads such a text digit by digit, and `encode` writes it.
-/

namespace MachiningViewer.Http.Punycode

/-! ### Digits -/

/-- How many digits there are. -/
def base : Nat := 36

/-- The value of a digit: letters, in small or capital form, and then figures. -/
def digitValue? (c : Char) : Option Nat :=
  if 'a' ≤ c && c ≤ 'z' then some (c.toNat - 'a'.toNat)
  else if 'A' ≤ c && c ≤ 'Z' then some (c.toNat - 'A'.toNat)
  else if '0' ≤ c && c ≤ '9' then some (26 + (c.toNat - '0'.toNat))
  else none

/-- The digit with a value. -/
def digit (n : Nat) : Char :=
  Char.ofNat (if n < 26 then 'a'.toNat + n else '0'.toNat + (n - 26))

/-- A digit below the threshold of its place is the last one of its number. -/
def threshold (bias place : Nat) : Nat :=
  min 26 (max 1 (base * (place + 1) - bias))

theorem threshold_pos (bias place : Nat) : 0 < threshold bias place := by
  unfold threshold; omega

/-- The digits of a number, from a place on. -/
def digits (bias place n : Nat) : List Char :=
  if n < threshold bias place then [digit n]
  else
    let room := base - threshold bias place
    let above := n - threshold bias place
    digit (threshold bias place + above % room) :: digits bias (place + 1) (above / room)
termination_by n
decreasing_by
  have h := threshold_pos bias place
  have := Nat.div_le_self (n - threshold bias place) (base - threshold bias place)
  omega

/-! ### The cursor -/

/-- The bias that belongs to a size of numbers. -/
def settle (rounds size : Nat) : Nat :=
  if 455 < size then settle (rounds + 1) (size / 35)
  else base * rounds + base * size / (size + 38)
termination_by size
decreasing_by omega

/-- The bias after a number, in a text that has become `length` characters long. The first number
tells little about the next ones. -/
def nextBias (isFirst : Bool) (n length : Nat) : Nat :=
  let part := if isFirst then n / 700 else n / 2
  settle 0 (part + part / length)

/-- Where the next character may be put in: its code point if it is put into the text before the
cursor goes around, the place in the text, and the length of the text. -/
structure Cursor where
  code : Nat
  place : Nat
  length : Nat
  bias : Nat
  isFirst : Bool
  deriving DecidableEq, Repr

namespace Cursor

/-- The cursor over a text of characters of ASCII. -/
def start (length : Nat) : Cursor :=
  ⟨0x80, 0, length, 72, true⟩

/-- The code point and the place that so many steps lead to. -/
def target (cursor : Cursor) (steps : Nat) : Nat × Nat :=
  let n := cursor.place + steps
  (cursor.code + n / (cursor.length + 1), n % (cursor.length + 1))

/-- How many steps lead to a code point and a place. -/
def stepsTo (cursor : Cursor) (code place : Nat) : Nat :=
  (code - cursor.code) * (cursor.length + 1) + place - cursor.place

/-- The cursor behind a character that has been put in. -/
def behind (cursor : Cursor) (code place steps : Nat) : Cursor where
  code := code
  place := place + 1
  length := cursor.length + 1
  bias := nextBias cursor.isFirst steps (cursor.length + 1)
  isFirst := false

end Cursor

/-! ### Reading -/

/-- The numbers of a text and the places in it are below this one. -/
def limit : Nat := 0x100000000

/-- What has been read: the text so far, and the number that has been begun, with the place and the
weight of its next digit. -/
structure Reading where
  text : List Char
  cursor : Cursor
  number : Nat
  place : Nat
  weight : Nat
  deriving DecidableEq, Repr

namespace Reading

/-- A reading with no number begun. -/
def between (text : List Char) (cursor : Cursor) : Reading :=
  ⟨text, cursor, 0, 0, 1⟩

/-- Puts in the character that the number leads to. -/
def insert? (reading : Reading) (number : Nat) : Option Reading :=
  let (code, place) := reading.cursor.target number
  if h : code.isValidChar then
    let (front, back) := reading.text.splitAt place
    some (between (front ++ Char.ofNatAux code h :: back)
      (reading.cursor.behind code place number))
  else none

/-- Reads a digit. -/
def step? (reading : Reading) (c : Char) : Option Reading := do
  let d ← digitValue? c
  let number := reading.number + d * reading.weight
  let t := threshold reading.cursor.bias reading.place
  guard (number < limit)
  if d < t then reading.insert? number
  else
    let weight := reading.weight * (base - t)
    guard (weight < limit)
    pure { reading with number := number, place := reading.place + 1, weight := weight }

end Reading

/-- The part before the last hyphen and the part behind it. A hyphen at the very front parts
nothing. -/
def cutAtHyphen (cs : List Char) : List Char × List Char :=
  let back := (cs.reverse.takeWhile (· != '-')).reverse
  let front := cs.take (cs.length - back.length - 1)
  if front.isEmpty then ([], cs) else (front, back)

/-- The text that is written in characters of ASCII. -/
def decode? (cs : List Char) : Option (List Char) := do
  let (front, back) := cutAtHyphen cs
  let reading ← back.foldlM Reading.step? (.between front (.start front.length))
  guard (reading.place = 0)
  pure reading.text

/-! ### Writing -/

/-- The characters beyond ASCII with their places, in the order in which they are put in. -/
def insertions (cs : List Char) : List (Char × Nat) :=
  (cs.zipIdx.filter fun (c, _) => 0x80 ≤ c.toNat).mergeSort fun (c, _) (d, _) => c ≤ d

/-- How many characters stand before one, at a place of a text, when it is put in: those with a
lower code point, and those with the same. -/
def placeWhenInserted (cs : List Char) (c : Char) (place : Nat) : Nat :=
  (cs.take place).countP fun d => d.toNat < 0x80 || d ≤ c

/-- The digits of all numbers, from a cursor on. -/
def encodeFrom (cs : List Char) (cursor : Cursor) : List (Char × Nat) → List Char
  | [] => []
  | (c, i) :: rest =>
    let place := placeWhenInserted cs c i
    let steps := cursor.stepsTo c.toNat place
    digits cursor.bias 0 steps ++ encodeFrom cs (cursor.behind c.toNat place steps) rest

/-- Writes a text in characters of ASCII. -/
def encode (cs : List Char) : List Char :=
  let front := cs.filter (·.toNat < 0x80)
  (if front.isEmpty then [] else front ++ ['-']) ++
    encodeFrom cs (.start front.length) (insertions cs)

end MachiningViewer.Http.Punycode
