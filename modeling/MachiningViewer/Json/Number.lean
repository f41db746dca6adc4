import MachiningViewer.Number.Binary64
import MachiningViewer.Text.Blank

/-!
# JSON numbers

A number without point and exponent that fits into 64 bits, signed or unsigned, is an integer; every
other number is a double. The digits of a double are gathered into a significand as long as it fits
into 64 bits, all further ones only count places, and the significand is then scaled by a power of
ten: one rounding when the significand becomes a double and one for each scaling. A number whose
magnitude is beyond the doubles is out of range; one that is too small becomes zero.
-/

namespace MachiningViewer.Json

open Text

/-- A number as it is read. -/
inductive Number where
  | integer (i : Int)
  | double (x : Float)
  | outOfRange
  deriving Repr

namespace Number

/-! ### Significands -/

/-- Digits gathered so far: the number `significand · 10 ^ exponent`. -/
structure Gathered where
  significand : Nat
  exponent : Int
  /-- Has a digit been left out because it did not fit? -/
  full : Bool
  deriving Repr

/-- Takes a digit in front of the point. One that does not fit still moves the point. -/
def Gathered.takeWhole (g : Gathered) (d : Char) : Gathered :=
  let next := g.significand * 10 + (d.toNat - 48)
  if g.full || next ≥ twoTo 64 then { g with exponent := g.exponent + 1, full := true }
  else { g with significand := next }

/-- Takes a digit behind the point. One that does not fit is lost. -/
def Gathered.takeFraction (g : Gathered) (d : Char) : Gathered :=
  let next := g.significand * 10 + (d.toNat - 48)
  if g.full || next ≥ twoTo 64 then { g with full := true }
  else { g with significand := next, exponent := g.exponent - 1 }

/-- The significand and exponent of the digits in front of the point and behind it. A fraction
begins afresh: its digits may fit even where the last one in front did not. -/
def gather (whole fraction : List Char) : Gathered :=
  let front := whole.foldl Gathered.takeWhole ⟨0, 0, false⟩
  fraction.foldl Gathered.takeFraction { front with full := false }

/-! ### Scaling -/

/-- The greatest power of ten that is a double. -/
def greatestPower : Nat := 308

/-- The double nearest to a power of ten. -/
def powerOfTen (n : Nat) : Float :=
  Float.ofScientific 1 false n

/-- The product with a power of ten, unless it is beyond the doubles. -/
def scaleUp? (x : Float) (n : Nat) : Option Float :=
  let y := x * powerOfTen n
  if y.isFinite then some y else none

/-- Divides by ten as often as `n` says, in steps that keep the divisor a double. -/
def scaleDown (x : Float) (n : Nat) : Float :=
  if n ≤ greatestPower then x / powerOfTen n
  else if x == 0.0 then x
  else scaleDown (x / powerOfTen greatestPower) (n - greatestPower)
termination_by n
decreasing_by simp only [greatestPower] at *; omega

/-- The number `significand · 10 ^ exponent`, unless it is beyond the doubles. -/
def scale? (significand : Nat) (exponent : Int) : Option Float :=
  let x := Float.ofNat significand
  if exponent < 0 then
    let y := scaleDown x (-exponent).toNat
    if y.isFinite then some y else none
  else if exponent.toNat ≤ greatestPower then scaleUp? x exponent.toNat
  else if significand = 0 then some 0.0
  else none

/-- The double with the given sign, digits and exponent. -/
def ofDigits (negative : Bool) (whole fraction : List Char) (exponent : Int) : Number :=
  let g := gather whole fraction
  match scale? g.significand (g.exponent + exponent) with
  | some x => .double (if negative then -x else x)
  | none => .outOfRange

/-- The number with the given sign and digits alone: an integer if it fits into 64 bits. Negative
zero is none, for no integer has its sign. -/
def ofWhole (negative : Bool) (whole : List Char) : Number :=
  let n : Nat := whole.foldl (fun n d => 10 * n + (d.toNat - 48)) 0
  if negative then
    if 0 < n ∧ n ≤ twoTo 63 then .integer (-(n : Int)) else ofDigits true whole [] 0
  else if n < twoTo 64 then .integer n
  else ofDigits false whole [] 0

/-! ### Grammar -/

/-- The exponent of a number, its sign first, and what follows it. At least one digit is needed. -/
def readExponent? (cs : List Char) : Option (Int × List Char) :=
  let (negative, cs) : Bool × List Char :=
    match cs with
    | '+' :: r => (false, r)
    | '-' :: r => (true, r)
    | r => (false, r)
  let digits := cs.takeWhile isAsciiDigit
  if digits.isEmpty then none
  else
    let n : Nat := digits.foldl (fun n d => 10 * n + (d.toNat - 48)) 0
    some (if negative then -(n : Int) else n, cs.dropWhile isAsciiDigit)

/-- The fraction of a number, behind its point, and what follows it. At least one digit is needed.
-/
def readFraction? (cs : List Char) : Option (List Char × List Char) :=
  let digits := cs.takeWhile isAsciiDigit
  if digits.isEmpty then none else some (digits, cs.dropWhile isAsciiDigit)

/-- What follows the digits in front of the point. -/
def readTail? (negative : Bool) (whole : List Char) (cs : List Char) :
    Option (Number × List Char) :=
  let withExponent (fraction : List Char) (cs : List Char) : Option (Number × List Char) :=
    (readExponent? cs).map fun (e, r) => (ofDigits negative whole fraction e, r)
  match cs with
  | '.' :: r =>
    match readFraction? r with
    | none => none
    | some (fraction, 'e' :: r) => withExponent fraction r
    | some (fraction, 'E' :: r) => withExponent fraction r
    | some (fraction, r) => some (ofDigits negative whole fraction 0, r)
  | 'e' :: r => withExponent [] r
  | 'E' :: r => withExponent [] r
  | r => some (ofWhole negative whole, r)

/-- A number without its sign, and what follows it. No digit may follow a leading zero. -/
def readUnsigned? (negative : Bool) (cs : List Char) : Option (Number × List Char) :=
  let whole := cs.takeWhile isAsciiDigit
  match whole with
  | [] => none
  | '0' :: _ :: _ => none
  | _ => readTail? negative whole (cs.dropWhile isAsciiDigit)

/-- The number at the front of a text, and what follows it. -/
def read? : List Char → Option (Number × List Char)
  | '-' :: cs => readUnsigned? true cs
  | cs => readUnsigned? false cs

end Number

end MachiningViewer.Json
