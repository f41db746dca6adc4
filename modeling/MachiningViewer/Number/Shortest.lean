import MachiningViewer.Number.Binary64
import MachiningViewer.Number.Places

/-!
# The shortest decimal that reads back

`shortest` finds the decimal number with the fewest digits that rounds to a given double, and of
those the nearest to it. `FloatLayout` then decides how it is laid out: which exponents are written
positionally and how the others look.
-/

namespace MachiningViewer

/-- A decimal number `digits · 10 ^ exponent`. -/
structure Decimal where
  digits : Nat
  exponent : Int
  deriving DecidableEq, Repr

namespace Shortest

/-- A positive double with the numbers that round to it: those between `low` and `high` quarters of
`2 ^ exponent`, ends included if the mantissa is even. -/
structure Target where
  mantissa : Nat
  exponent : Int
  deriving Repr

/-- The lower end in quarters of `2 ^ exponent`. Below a power of two the doubles lie twice as close
together, so the interval is cut short there. -/
def Target.low (t : Target) : Nat :=
  if t.mantissa = Binary64.hiddenBit ∧ t.exponent ≠ Binary64.leastExponent then 4 * t.mantissa - 1
  else 4 * t.mantissa - 2

/-- The upper end in quarters of `2 ^ exponent`. -/
def Target.high (t : Target) : Nat := 4 * t.mantissa + 2

/-- Compares `d · 10 ^ p` with `quarters · 2 ^ exponent / 4`. -/
def Target.compareTo (t : Target) (d : Nat) (p : Int) (quarters : Nat) : Ordering :=
  compare (d * tenTo p.toNat * 4 * twoTo (-t.exponent).toNat)
    (quarters * twoTo t.exponent.toNat * tenTo (-p).toNat)

/-- Does `d · 10 ^ p` round to the target? -/
def Target.admits (t : Target) (d : Nat) (p : Int) : Bool :=
  let fromLow := t.compareTo d p t.low
  let toHigh := t.compareTo d p t.high
  if t.mantissa % 2 = 0 then fromLow != .lt && toHigh != .gt
  else fromLow == .gt && toHigh == .lt

/-- The exponent of the target's first decimal digit. Scaling by a power of ten that makes the
number at least one does not change its digits. -/
def Target.leadingExponent (t : Target) : Int :=
  let shift := (-t.exponent).toNat
  let scaled := t.mantissa * twoTo t.exponent.toNat * tenTo shift / twoTo shift
  ((Nat.toDigits 10 scaled).length : Int) - 1 - shift

/-- The multiple of `10 ^ p` at or below the target, in that unit. -/
def Target.below (t : Target) (p : Int) : Nat :=
  t.mantissa * twoTo t.exponent.toNat * tenTo (-p).toNat /
    (twoTo (-t.exponent).toNat * tenTo p.toNat)

/-- The multiple of `10 ^ p` that rounds to the target, if there is one. Only the two around the
target can be; of both the nearer is taken, and of two as near the lower. -/
def Target.onGrid? (t : Target) (p : Int) : Option Decimal :=
  let d := t.below p
  match t.admits d p, t.admits (d + 1) p with
  | true, false => some ⟨d, p⟩
  | false, true => some ⟨d + 1, p⟩
  | false, false => none
  | true, true =>
    -- The target is nearer to the upper one exactly if it lies above the middle of the two.
    if t.compareTo (2 * d + 1) p (8 * t.mantissa) == .lt then some ⟨d + 1, p⟩ else some ⟨d, p⟩

/-- Seventeen digits tell every double from its neighbours. -/
def mostDigits : Nat := 17

/-- Tries one digit, two digits and so on. -/
def Target.decimal (t : Target) : Decimal :=
  let lead := t.leadingExponent
  ((List.range mostDigits).findSome? fun (n : Nat) => t.onGrid? (lead - n)).getD ⟨0, 0⟩

end Shortest

/-- The shortest decimal that rounds to `mantissa · 2 ^ exponent`, and zero for zero. -/
def shortest (mantissa : Nat) (exponent : Int) : Decimal :=
  if mantissa = 0 then ⟨0, 0⟩ else (Shortest.Target.mk mantissa exponent).decimal

/-! ### Layout -/

/-- How a double is laid out in a text. -/
structure FloatLayout where
  /-- The least and the greatest exponent of the first digit that is written positionally. -/
  positionalFrom : Int
  positionalTo : Int
  /-- Is a positive exponent written with a plus sign? -/
  exponentPlus : Bool
  /-- The least number of digits of an exponent. -/
  exponentWidth : Nat
  deriving Repr

namespace FloatLayout

/-- Digits that belong in front of `10 ^ exponent`, written positionally and with a point: a whole
number ends with `.0`. -/
def writePositional (digits : List Char) (exponent : Int) : List Char :=
  if 0 ≤ exponent then digits ++ List.replicate exponent.toNat '0' ++ ['.', '0']
  else
    let places := (-exponent).toNat
    let padded := List.replicate (places + 1 - digits.length) '0' ++ digits
    padded.take (padded.length - places) ++ '.' :: padded.drop (padded.length - places)

/-- Digits in scientific notation: the first one, then the others behind a point if there are any,
then the exponent of the first. -/
def writeScientific (l : FloatLayout) (digits : List Char) (lead : Int) : List Char :=
  let fraction := digits.drop 1
  let size := Nat.toDigits 10 lead.natAbs
  digits.take 1 ++ (if fraction.isEmpty then [] else '.' :: fraction) ++ ['e'] ++
    (if lead < 0 then ['-'] else if l.exponentPlus then ['+'] else []) ++
    List.replicate (l.exponentWidth - size.length) '0' ++ size

/-- The text of a double. -/
def write (l : FloatLayout) (x : Float) : String :=
  match Binary64.ofFloat x with
  | .nan => "NaN"
  | .infinite negative => if negative then "-inf" else "inf"
  | .finite negative m e =>
    let d := shortest m e
    let all := Nat.toDigits 10 d.digits
    let digits := (all.take 1) ++ ((all.drop 1).reverse.dropWhile (· == '0')).reverse
    let exponent := d.exponent + (all.length - digits.length : Nat)
    let lead := exponent + (digits.length - 1 : Nat)
    let text :=
      if l.positionalFrom ≤ lead ∧ lead ≤ l.positionalTo then writePositional digits exponent
      else l.writeScientific digits lead
    String.ofList (if negative then '-' :: text else text)

end FloatLayout

end MachiningViewer
