/-!
# Digits, and tables by code point

Properties of characters are given by ranges of code points, and values for characters by runs of
code points that follow one another.

`isDecimalDigit` is Unicode's general category Nd. The digits of a script stand in runs of ten, in
the order of their values, so a table of the first digit of each run is the whole category.

Hexadecimal digits are of ASCII only (`hexValue?`).
-/

namespace MachiningViewer.Text

/-! ### Tables -/

/-- Does a character lie in one of some ranges, both ends included? -/
def isInRanges (ranges : Array (Nat × Nat)) (c : Char) : Bool :=
  ranges.any fun (low, high) => low ≤ c.toNat && c.toNat ≤ high

/-- Values for the code points from some code points on. -/
abbrev Runs (α : Type) := Array (Nat × Array α)

/-- The value for a character. -/
def Runs.at? {α : Type} (runs : Runs α) (c : Char) : Option α := do
  let (first, values) ← runs.find? fun (first, values) =>
    first ≤ c.toNat && c.toNat < first + values.size
  values[c.toNat - first]?

/-! ### Digits -/

/-- The digit zero of each run of ten digits in the category Nd, in ascending order. -/
def digitZeros : Array Nat := #[
  0x30, 0x660, 0x6F0, 0x7C0, 0x966, 0x9E6, 0xA66, 0xAE6, 0xB66, 0xBE6, 0xC66, 0xCE6, 0xD66, 0xDE6,
  0xE50, 0xED0, 0xF20, 0x1040, 0x1090, 0x17E0, 0x1810, 0x1946, 0x19D0, 0x1A80, 0x1A90, 0x1B50,
  0x1BB0, 0x1C40, 0x1C50, 0xA620, 0xA8D0, 0xA900, 0xA9D0, 0xA9F0, 0xAA50, 0xABF0, 0xFF10, 0x104A0,
  0x10D30, 0x10D40, 0x11066, 0x110F0, 0x11136, 0x111D0, 0x112F0, 0x11450, 0x114D0, 0x11650, 0x116C0,
  0x116D0, 0x116DA, 0x11730, 0x118E0, 0x11950, 0x11BF0, 0x11C50, 0x11D50, 0x11DA0, 0x11F50, 0x16130,
  0x16A60, 0x16AC0, 0x16B50, 0x16D70, 0x1CCF0, 0x1D7CE, 0x1D7D8, 0x1D7E2, 0x1D7EC, 0x1D7F6, 0x1E140,
  0x1E2F0, 0x1E4F0, 0x1E5F1, 0x1E950, 0x1FBF0]

/-- A decimal digit of any script. -/
def isDecimalDigit (c : Char) : Bool :=
  if c.toNat < 0x80 then '0' ≤ c && c ≤ '9'
  else digitZeros.any fun z => z ≤ c.toNat && c.toNat < z + 10

/-- The value of a hexadecimal digit of either case. -/
def hexValue? (c : Char) : Option Nat :=
  if '0' ≤ c && c ≤ '9' then some (c.toNat - 0x30)
  else if 'A' ≤ c && c ≤ 'F' then some (c.toNat - 0x37)
  else if 'a' ≤ c && c ≤ 'f' then some (c.toNat - 0x57)
  else none

/-- The number that hexadecimal digits denote. -/
def hexNumber? (ds : List Char) : Option Nat :=
  ds.foldlM (fun n d => (hexValue? d).map (16 * n + ·)) 0

end MachiningViewer.Text
