import MachiningViewer.Text.Blank
import MachiningViewer.Text.Digit

/-!
# Address words

A toolpath line is made of words such as `X1.5` or `g 01`: an address letter, blanks if the writer
likes, and a numeral with an optional sign. `Word.scan` finds them from left to right wherever they
stand and takes each numeral as long as it goes; what is between two words is skipped.

Digits of every script make up a numeral, but only ASCII digits have a value, so a word with any
other digit is found and then left out.
-/

namespace MachiningViewer

open Text

/-- A numeral as it is written: digits around at most one point. -/
structure Numeral where
  negative : Bool
  /-- The digits before the point. -/
  whole : List Char
  /-- The digits after the point. -/
  fraction : List Char
  deriving DecidableEq, Repr

namespace Numeral

/-- The number that a list of ASCII digits denotes, read on from `acc`. -/
def digitsValue (acc : Nat) (ds : List Char) : Nat :=
  ds.foldl (fun n d => 10 * n + (d.toNat - 48)) acc

/-- The double nearest to the numeral, if all its digits are ASCII. Too large a number is infinite,
and a numeral of zeros keeps its sign. -/
def value? (n : Numeral) : Option Float :=
  if n.whole.all isAsciiDigit && n.fraction.all isAsciiDigit then
    let magnitude :=
      Float.ofScientific (digitsValue (digitsValue 0 n.whole) n.fraction) true n.fraction.length
    some (if n.negative then -magnitude else magnitude)
  else none

/-- The longest unsigned numeral at the front, and what follows it: digits, then at most one point,
then digits. There is at least one digit. -/
def unsigned? (negative : Bool) (cs : List Char) : Option (Numeral × List Char) :=
  let whole := cs.takeWhile isDecimalDigit
  match cs.dropWhile isDecimalDigit with
  | '.' :: r =>
    let fraction := r.takeWhile isDecimalDigit
    if whole.isEmpty && fraction.isEmpty then none
    else some (⟨negative, whole, fraction⟩, r.dropWhile isDecimalDigit)
  | rest => if whole.isEmpty then none else some (⟨negative, whole, []⟩, rest)

/-- The longest numeral at the front, with an optional sign, and what follows it. -/
def read? : List Char → Option (Numeral × List Char)
  | '+' :: cs => unsigned? false cs
  | '-' :: cs => unsigned? true cs
  | cs => unsigned? false cs

end Numeral

/-- A word: its address letter in upper case and the value of its numeral. -/
structure Word where
  address : Char
  value : Float
  deriving Repr, Inhabited

namespace Word

/-- The characters that are an ASCII letter when case is ignored: the letters themselves, the long s
(an old form of the letter s) and the sign for kelvin (whose small form is the letter k). -/
def isAddress (c : Char) : Bool :=
  isAsciiLetter c || c == '\u017F' || c == '\u212A'

/-- What stands behind an address letter, up to the numeral. -/
def numeralAfter? (cs : List Char) : Option (Numeral × List Char) :=
  Numeral.read? (trimStart cs)

/-- The word with a letter and a numeral, if the numeral has a value. -/
def ofNumeral? (letter : Char) (n : Numeral) : Option Word :=
  n.value?.map fun v => ⟨letter.toUpper, v⟩

end Word

/-! ### Reading a numeral leaves less text -/

theorem Numeral.length_dropWhile_le (p : Char → Bool) (cs : List Char) :
    (cs.dropWhile p).length ≤ cs.length :=
  (List.dropWhile_suffix p).length_le

theorem Numeral.unsigned?_length {neg : Bool} {cs rest : List Char} {n : Numeral}
    (h : unsigned? neg cs = some (n, rest)) : rest.length ≤ cs.length := by
  have hs := length_dropWhile_le isDecimalDigit cs
  unfold unsigned? at h
  simp only at h
  split at h
  · rename_i r heq
    rw [heq, List.length_cons] at hs
    have hr := length_dropWhile_le isDecimalDigit r
    split at h
    · simp at h
    · simp only [Option.some.injEq, Prod.mk.injEq] at h
      obtain ⟨_, rfl⟩ := h
      omega
  · split at h
    · simp at h
    · simp only [Option.some.injEq, Prod.mk.injEq] at h
      obtain ⟨_, rfl⟩ := h
      exact hs

theorem Numeral.read?_length {cs rest : List Char} {n : Numeral}
    (h : read? cs = some (n, rest)) : rest.length ≤ cs.length := by
  unfold read? at h
  split at h
  · have := unsigned?_length h; simp only [List.length_cons]; omega
  · have := unsigned?_length h; simp only [List.length_cons]; omega
  · exact unsigned?_length h

theorem Word.numeralAfter?_length {cs rest : List Char} {n : Numeral}
    (h : numeralAfter? cs = some (n, rest)) : rest.length ≤ cs.length :=
  Nat.le_trans (Numeral.read?_length h) (Numeral.length_dropWhile_le isBlank cs)

/-- The words of a text, from left to right. Each takes its numeral as long as it goes, and the
search goes on behind it. -/
def Word.scan : List Char → List Word
  | [] => []
  | c :: cs =>
    if isAddress c then
      match h : numeralAfter? cs with
      | some (n, rest) =>
        have : rest.length < cs.length + 1 := Nat.lt_succ_of_le (numeralAfter?_length h)
        (ofNumeral? c n).toList ++ scan rest
      | none => scan cs
    else scan cs
termination_by cs => cs.length

end MachiningViewer
