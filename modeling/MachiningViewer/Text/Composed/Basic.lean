import MachiningViewer.Text.Composed.CombiningClass
import MachiningViewer.Text.Composed.Composites

/-!
# Composed texts

A text with marks can be written in several ways that look alike. `composed` gives the one in which
marks are in the order of their classes and everything that can be one character is one. It takes
the composites apart (`decompose`), puts the marks in order (`inOrder`) and builds composites from
left to right (`compose`).

Characters that only stand for another one are no composites. They are left alone here.
-/

namespace MachiningViewer.Text

/-! ### Composites -/

/-- A composite with its two parts. -/
structure Composite where
  whole : Char
  first : Char
  second : Char
  deriving DecidableEq, Repr

/-- The composites of a text that lists them with their parts. -/
def Composite.ofChars : List Char → List Composite
  | whole :: first :: second :: rest => ⟨whole, first, second⟩ :: ofChars rest
  | _ => []

/-- All composites other than syllables. -/
def composites : Array Composite :=
  (Composite.ofChars (String.join compositeLines).toList).toArray

/-! ### Syllables -/

/-- The first syllable. -/
def syllableBase : Nat := 0xAC00

/-- The first leading consonant. -/
def leadBase : Nat := 0x1100

/-- The first vowel. -/
def vowelBase : Nat := 0x1161

/-- The code point before the first trailing consonant. -/
def trailBase : Nat := 0x11A7

/-- How many leading consonants there are. -/
def leadCount : Nat := 19

/-- How many vowels there are. -/
def vowelCount : Nat := 21

/-- How many trailing consonants there are, with none as one more. -/
def trailCount : Nat := 28

/-- The number of a character in so many from a code point on. -/
def numberFrom? (base count : Nat) (c : Char) : Option Nat :=
  if base ≤ c.toNat && c.toNat < base + count then some (c.toNat - base) else none

/-- The syllable with a number. -/
def syllable (n : Nat) : Char :=
  Char.ofNat (syllableBase + n)

/-- The number of a syllable. -/
def syllableNumber? : Char → Option Nat :=
  numberFrom? syllableBase (leadCount * vowelCount * trailCount)

/-- The two parts of a syllable: with a trailing consonant, the rest and that; otherwise the two
letters that it has. -/
def splitSyllable (n : Nat) : Char × Char :=
  if n % trailCount = 0 then
    let m := n / trailCount
    (Char.ofNat (leadBase + m / vowelCount), Char.ofNat (vowelBase + m % vowelCount))
  else (syllable (n - n % trailCount), Char.ofNat (trailBase + n % trailCount))

/-- The syllable of two parts. -/
def joinSyllable? (a b : Char) : Option Char :=
  match numberFrom? leadBase leadCount a, numberFrom? vowelBase vowelCount b with
  | some l, some v => some (syllable ((l * vowelCount + v) * trailCount))
  | _, _ => do
    let n ← syllableNumber? a
    let t ← numberFrom? (trailBase + 1) (trailCount - 1) b
    if n % trailCount = 0 then some (syllable (n + t + 1)) else none

/-! ### Apart and together -/

/-- The two parts of a composite. -/
def parts? (c : Char) : Option (Char × Char) :=
  if c.toNat < 0x80 then none
  else
    match syllableNumber? c with
    | some n => some (splitSyllable n)
    | none => (composites.find? (·.whole == c)).map fun x => (x.first, x.second)

/-- The composite of two parts. -/
def whole? (a b : Char) : Option Char :=
  if b.toNat < 0x80 then none
  else
    (joinSyllable? a b).or ((composites.find? fun x => x.first == a && x.second == b).map (·.whole))

/-- How many composites can lie within one another. -/
def compositeDepth : Nat := 4

/-- The characters of a composite, if the composites in it lie no deeper than `depth`. -/
def decomposeWithin : (depth : Nat) → Char → List Char
  | 0, c => [c]
  | depth + 1, c =>
    match parts? c with
    | none => [c]
    | some (a, b) => decomposeWithin depth a ++ decomposeWithin depth b

/-- The characters that a character is composed of. -/
def decompose (c : Char) : List Char :=
  decomposeWithin compositeDepth c

/-- Puts a character in front of a text whose marks are in order: behind the marks of a lower
class than its own. -/
def insertInOrder (c : Char) : List Char → List Char
  | [] => [c]
  | d :: rest =>
    if 0 < combiningClass d && combiningClass d < combiningClass c then
      d :: insertInOrder c rest
    else c :: d :: rest

/-- Sorts the marks behind each character by their classes. Marks of one class keep their order. -/
def inOrder (cs : List Char) : List Char :=
  cs.foldr insertInOrder []

/-- Builds composites with a character that starts anew. `passed` holds the marks that stay behind
it, from the last; one of the same class as a mark bars its way. -/
def composeWith (starter : Char) (passed : List Char) : List Char → List Char
  | [] => starter :: passed.reverse
  | c :: rest =>
    let isBarred := match passed with
      | [] => false
      | p :: _ => combiningClass c ≤ combiningClass p
    match if isBarred then none else whole? starter c with
    | some x => composeWith x passed rest
    | none =>
      if combiningClass c = 0 then starter :: (passed.reverse ++ composeWith c [] rest)
      else composeWith starter (c :: passed) rest

/-- Builds composites in a text whose marks are in order. -/
def compose : List Char → List Char
  | [] => []
  | c :: rest => if combiningClass c = 0 then composeWith c [] rest else c :: compose rest

/-- The composed form of a text. -/
def composed (cs : List Char) : List Char :=
  compose (inOrder (cs.flatMap decompose))

end MachiningViewer.Text
