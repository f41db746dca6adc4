import MachiningViewer.Text.Blank

/-!
# Dates and times

The library has no use for dates and times, but has to know which of them a document may hold: a
date of the calendar, a time of the day to any fraction of a second, or both, then perhaps with an
offset.
-/

namespace MachiningViewer.Toml.Moment

open Text (isAsciiDigit)

/-- The number that digits make. -/
def number? (cs : List Char) : Option Nat :=
  if cs.all isAsciiDigit then some (cs.foldl (fun n d => 10 * n + (d.toNat - 48)) 0) else none

/-- Is there a year with this number in which February has 29 days? -/
def isLeapYear (year : Nat) : Bool :=
  year % 4 == 0 && (year % 100 != 0 || year % 400 == 0)

/-- The number of days of a month. -/
def daysIn (year month : Nat) : Nat :=
  if month = 2 then if isLeapYear year then 29 else 28
  else if [4, 6, 9, 11].contains month then 30
  else 31

/-- What follows a date at the front. -/
def afterDate? : List Char → Option (List Char)
  | y1 :: y2 :: y3 :: y4 :: '-' :: m1 :: m2 :: '-' :: d1 :: d2 :: rest => do
    let year ← number? [y1, y2, y3, y4]
    let month ← number? [m1, m2]
    let day ← number? [d1, d2]
    guard (1 ≤ month && month ≤ 12 && 1 ≤ day && day ≤ daysIn year month)
    pure rest
  | _ => none

/-- What follows a fraction of a second, if there is one. -/
def afterFraction? : List Char → Option (List Char)
  | '.' :: rest =>
    if rest.head?.any isAsciiDigit then some (rest.dropWhile isAsciiDigit) else none
  | cs => some cs

/-- What follows a time of the day at the front. A minute may have a leap second. -/
def afterTime? : List Char → Option (List Char)
  | h1 :: h2 :: ':' :: m1 :: m2 :: ':' :: s1 :: s2 :: rest => do
    let hour ← number? [h1, h2]
    let minute ← number? [m1, m2]
    let second ← number? [s1, s2]
    guard (hour < 24 && minute < 60 && second ≤ 60)
    afterFraction? rest
  | _ => none

/-- Is a text an offset from universal time? -/
def isOffset : List Char → Bool
  | [z] => z == 'Z' || z == 'z'
  | [sign, h1, h2, ':', m1, m2] =>
    (sign == '+' || sign == '-') && (number? [h1, h2]).any (· < 24) &&
      (number? [m1, m2]).any (· < 60)
  | _ => false

/-- Is a text a date? -/
def isDate (cs : List Char) : Bool :=
  afterDate? cs == some []

/-- Is a text a time of the day, by itself? -/
def isTime (cs : List Char) : Bool :=
  afterTime? cs == some []

/-- Is a text a time of the day, perhaps with an offset? -/
def isTimeOfDate (cs : List Char) : Bool :=
  match afterTime? cs with
  | none => false
  | some rest => rest.isEmpty || isOffset rest

/-- Is a text without spaces a date, a time, or both? -/
def isMoment (cs : List Char) : Bool :=
  isTime cs ||
    match afterDate? cs with
    | none => false
    | some [] => true
    | some (t :: rest) => (t == 'T' || t == 't') && isTimeOfDate rest

end MachiningViewer.Toml.Moment
