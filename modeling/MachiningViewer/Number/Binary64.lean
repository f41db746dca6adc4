/-!
# Doubles and decimals

A finite double is a dyadic rational, `± mantissa · 2 ^ exponent`. `Binary64.ofFloat` reads the
three parts off its bits, so that writing a double in decimal is arithmetic on whole numbers.

The other way, `nearestDouble` is the double nearest to a decimal. A decimal may have an exponent of
any size, but the magnitude of a double is bounded: far beyond the bounds the answer is known
without a computation.
-/

namespace MachiningViewer

/-- A power of two. -/
def twoTo (n : Nat) : Nat := Nat.pow 2 n

/-- A power of ten. -/
def tenTo (n : Nat) : Nat := Nat.pow 10 n

/-! ### The exact value of a double -/

/-- What a double is, exactly. -/
inductive Binary64 where
  | nan
  | infinite (negative : Bool)
  /-- The number `± mantissa · 2 ^ exponent`; zero has a sign too. -/
  | finite (negative : Bool) (mantissa : Nat) (exponent : Int)
  deriving DecidableEq, Repr

namespace Binary64

/-- The exponent of the subnormal doubles, the least there is. -/
def leastExponent : Int := -1074

/-- The mantissa of the least normal double. -/
def hiddenBit : Nat := twoTo 52

/-- Reads sign, exponent and mantissa off the bits of a double. -/
def ofFloat (x : Float) : Binary64 :=
  let bits := x.toBits.toNat
  let negative := bits / twoTo 63 == 1
  let biased := bits / hiddenBit % 2048
  let fraction := bits % hiddenBit
  if biased = 2047 then if fraction = 0 then infinite negative else nan
  else if biased = 0 then finite negative fraction leastExponent
  else finite negative (hiddenBit + fraction) (leastExponent + (biased - 1 : Nat))

end Binary64

/-! ### The double nearest to a decimal -/

/-- Every decimal below ten to this power is finite as a double, and every one that is not below ten
times as much is infinite. -/
def mostPlaces : Int := 310

/-- Every decimal below ten to this power is zero as a double. -/
def leastPlaces : Int := -330

/-- The double nearest to `digits · 10 ^ exponent`, infinite where that is too large. -/
def nearestDouble (digits : Nat) (exponent : Int) : Float :=
  let places := exponent + (Nat.toDigits 10 digits).length
  if digits = 0 ∨ places < leastPlaces then 0.0
  else if mostPlaces < places then 1.0 / 0.0
  else if exponent < 0 then Float.ofScientific digits true (-exponent).toNat
  else Float.ofScientific digits false exponent.toNat

end MachiningViewer
