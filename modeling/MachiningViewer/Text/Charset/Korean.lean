import MachiningViewer.Text.Charset.Multibyte
import MachiningViewer.Text.Charset.Ksx1001

/-!
# Korean texts

EUC-KR as it is written today: the Korean set in rows of 94 places, and around these the syllables
that have no place there, in their order.
-/

namespace MachiningViewer.Text.Charset

/-- The Korean set. -/
def koreanTable : Array Char := ofRows 94 Ksx1001.rows

/-- How many syllables there are; they follow one another from U+AC00 on. -/
def syllableCount : Nat := 11172

/-- For each syllable: has it no place in the Korean set? -/
def furtherMarks : Array Bool :=
  koreanTable.foldl (fun marks c =>
    if c.toNat < 0xAC00 then marks else marks.setIfInBounds (c.toNat - 0xAC00) false)
    (Array.replicate syllableCount true)

/-- The syllables that have no place in the Korean set, in their order. -/
def furtherSyllables : Array Char :=
  (List.range syllableCount).foldl (fun table n =>
    if furtherMarks.getD n false then table.push (Char.ofNat (0xAC00 + n)) else table) #[]

/-- The number of a second byte of a further syllable. -/
def furtherSecond? (b : UInt8) : Option Nat :=
  ((numberIn? 0x41 0x5A 0 b).or (numberIn? 0x61 0x7A 26 b)).or (numberIn? 0x81 0xFE 52 b)

/-- The first bytes below 0xA1 have 178 further syllables each and the others, where the Korean set
takes the second bytes from 0xA1 on, 84. -/
def furtherPlace? (a b : UInt8) : Option Nat := do
  let second ← furtherSecond? b
  if let some row := numberIn? 0x81 0xA0 0 a then pure (178 * row + second)
  else
    let row ← numberIn? 0xA1 0xFE 0 a
    if second < 84 then pure (178 * 32 + 84 * row + second) else none

/-- The character of two bytes. -/
def koreanPair? (a b : UInt8) : Option Char :=
  match place94? a b with
  | some place => at? koreanTable place
  | none => (furtherPlace? a b).bind (at? furtherSyllables)

/-- The front of a text in EUC-KR. -/
def eucKrFront : UInt8 → List UInt8 → Piece :=
  doubleByteFront ascii? (fun b => (numberIn? 0x81 0xFE 0 b).isSome)
    (fun a b => (koreanPair? a b).toList)

end MachiningViewer.Text.Charset
