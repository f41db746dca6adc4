import MachiningViewer.Number.Binary64

/-!
# A fixed number of decimal places

`Float.withPlaces` rounds the exact value of a double, not its shortest text: `1.005` is a little
less than it looks and has two places `1.00`. A value halfway between two neighbours goes to the
even one.
-/

namespace MachiningViewer

/-- The quotient rounded to the nearest whole number; a half goes to the even neighbour. -/
def roundDivEven (num den : Nat) : Nat :=
  let q := num / den
  let r := num % den
  if 2 * r < den then q
  else if 2 * r > den then q + 1
  else if q % 2 = 0 then q else q + 1

/-- `units · 10 ^ (-places)` in positional notation, with exactly `places` digits behind the point.
-/
def positional (units places : Nat) : List Char :=
  let digits := Nat.toDigits 10 units
  let padded := List.replicate (places + 1 - digits.length) '0' ++ digits
  let cut := padded.length - places
  if places = 0 then padded else padded.take cut ++ '.' :: padded.drop cut

/-- The number `mantissa · 2 ^ exponent` in units of `10 ^ (-places)`, rounded. -/
def roundToPlaces (mantissa : Nat) (exponent : Int) (places : Nat) : Nat :=
  roundDivEven (mantissa * tenTo places * twoTo exponent.toNat) (twoTo (-exponent).toNat)

/-- The text of a double with a fixed number of decimal places. The sign is kept even where nothing
but zeros are left of the number. -/
def withPlaces (x : Float) (places : Nat) : String :=
  match Binary64.ofFloat x with
  | .nan => "NaN"
  | .infinite negative => if negative then "-inf" else "inf"
  | .finite negative m e =>
    let digits := positional (roundToPlaces m e places) places
    String.ofList (if negative then '-' :: digits else digits)

end MachiningViewer
