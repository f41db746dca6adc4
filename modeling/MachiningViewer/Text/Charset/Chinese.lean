import MachiningViewer.Text.Charset.Multibyte
import MachiningViewer.Text.Charset.Gb18030
import MachiningViewer.Text.Charset.Big5

/-!
# Chinese texts

GB 18030 writes every character there is, in up to four bytes: symbols and the ideographs in common
use in the places of an older set, the other ideographs of the first block around them, characters
for private use, and all that remains in four bytes, in the order of the code points. Big5 has two
bytes for a character.
-/

namespace MachiningViewer.Text.Charset

/-! ### GB 18030 in two bytes -/

/-- Symbols and letters. -/
def symbolTable : Array Char := ofRows 94 Gb18030.symbolRows

/-- More symbols. -/
def furtherSymbolTable : Array Char := ofRows 96 Gb18030.furtherSymbolRows

/-- Ideographs in common use. -/
def commonTable : Array Char := ofRows 94 Gb18030.ideographRows

/-- How many ideographs the first block has; they follow one another from U+4E00 on. -/
def ideographCount : Nat := 20902

/-- For each ideograph of the first block: has it no place among those in common use? -/
def uncommonMarks : Array Bool :=
  commonTable.foldl (fun marks c => marks.setIfInBounds (c.toNat - 0x4E00) false)
    (Array.replicate ideographCount true)

/-- The other ideographs of the first block in their order, and what follows them. -/
def uncommonTable : Array Char :=
  (List.range ideographCount).foldl (fun table n =>
    if uncommonMarks.getD n false then table.push (Char.ofNat (0x4E00 + n)) else table) #[] ++
  Gb18030.supplement.toList.toArray

/-- The character for private use with a number. -/
def private? (n : Nat) : Option Char :=
  some (Char.ofNat (0xE000 + n))

/-- The number of a second byte below 0xA1. -/
def lowSecond? (b : UInt8) : Option Nat :=
  (numberIn? 0x40 0x7E 0 b).or (numberIn? 0x80 0xA0 63 b)

/-- The number of a second byte from 0xA1 on. -/
def highSecond? (b : UInt8) : Option Nat :=
  numberIn? 0xA1 0xFE 0 b

/-- The last of the places for private use in front of the symbols holds a space. -/
def spacePlace : Nat :=
  2 * 96 + 95

/-- The character of two bytes, if the second is below 0xA1. -/
def lowPair? (a : UInt8) (second : Nat) : Option Char := do
  if let some row := numberIn? 0x81 0xA0 0 a then at? uncommonTable (190 * row + second)
  else if let some row := numberIn? 0xA8 0xA9 0 a then at? furtherSymbolTable (96 * row + second)
  else if let some row := numberIn? 0xA1 0xA7 0 a then
    if 96 * row + second = spacePlace then some '\u3000'
    else private? (0x4C6 + 96 * row + second)
  else
    let row ← numberIn? 0xAA 0xFE 0 a
    at? uncommonTable (190 * 32 + 96 * row + second)

/-- The character of two bytes, if the second is from 0xA1 on. -/
def highPair? (a : UInt8) (second : Nat) : Option Char := do
  if let some row := numberIn? 0x81 0xA0 0 a then at? uncommonTable (190 * row + 96 + second)
  else if let some row := numberIn? 0xA1 0xA9 0 a then at? symbolTable (94 * row + second)
  else if let some row := numberIn? 0xAA 0xAF 0 a then private? (94 * row + second)
  else if let some row := numberIn? 0xB0 0xF7 0 a then at? commonTable (94 * row + second)
  else
    let row ← numberIn? 0xF8 0xFE 0 a
    private? (0x234 + 94 * row + second)

/-- The character of two bytes. -/
def gbPair? (a b : UInt8) : Option Char :=
  match lowSecond? b, highSecond? b with
  | some second, _ => lowPair? a second
  | none, some second => highPair? a second
  | none, none => none

/-! ### GB 18030 in four bytes -/

/-- The number that four bytes give. -/
def gbNumber? (a b c d : UInt8) : Option Nat := do
  let first ← numberIn? 0x81 0xFE 0 a
  let second ← numberIn? 0x30 0x39 0 b
  let third ← numberIn? 0x81 0xFE 0 c
  let fourth ← numberIn? 0x30 0x39 0 d
  pure (((first * 10 + second) * 126 + third) * 10 + fourth)

/-- The numbers behind the last character of the first plane and before the first one beyond it, and
the number behind the last character. -/
def gbGap : Nat × Nat × Nat :=
  (39420, 189000, 1237576)

/-- The number of a character for private use that has a place among the others. -/
def gbStray : Nat := 7457

/-- The character of four bytes with a number. It is as far behind the beginning of its run as the
number is. -/
def gbAt? (n : Nat) : Option Char :=
  if (gbGap.1 ≤ n && n < gbGap.2.1) || gbGap.2.2 ≤ n then none
  else if n == gbStray then some '\uE7C7'
  else do
    let (start, first) ← (Gb18030.runs.takeWhile (·.1 ≤ n)).getLast?
    pure (Char.ofNat (first + (n - start)))

/-! ### The front of a text -/

/-- The front of a text in GB 18030. A digit as second byte begins the second half of four bytes;
if these are malformed, what follows the first one is read again. -/
def gbFront (a : UInt8) (rest : List UInt8) : Piece :=
  if a < 0x80 then .character (Char.ofNat a.toNat) 0
  else if a == 0x80 then .character '€' 0
  else if a == 0xFF then .broken 0
  else
    match rest with
    | [] => .broken 0
    | b :: behind =>
      if (numberIn? 0x30 0x39 0 b).isSome then
        match behind with
        | [] => .broken 1
        | c :: last =>
          if (numberIn? 0x81 0xFE 0 c).isNone then .broken 0
          else
            match last with
            | [] => .broken 2
            | d :: _ =>
              if (numberIn? 0x30 0x39 0 d).isNone then .broken 0
              else
                match (gbNumber? a b c d).bind gbAt? with
                | some x => .character x 3
                | none => .broken 3
      else .double (gbPair? a b).toList b

/-! ### Big5 -/

/-- The places of Big5: 157 for each first byte from 0x87 on. -/
def big5Table : Array Char :=
  Big5.rows.foldl (fun places pair =>
    places ++ ofRows 63 [pair.1] ++ ofRows 94 [pair.2]) #[]

/-- The four pairs of bytes that are a letter with a mark of its own. -/
def big5Marked : List ((UInt8 × UInt8) × List Char) := [
  ((0x88, 0x62), ['\u00CA', '\u0304']), ((0x88, 0x64), ['\u00CA', '\u030C']),
  ((0x88, 0xA3), ['\u00EA', '\u0304']), ((0x88, 0xA5), ['\u00EA', '\u030C'])]

/-- The characters of two bytes. -/
def big5Pair (a b : UInt8) : List Char :=
  match big5Marked.lookup (a, b) with
  | some cs => cs
  | none =>
    (do
      let row ← numberIn? 0x87 0xFE 0 a
      let second ← (numberIn? 0x40 0x7E 0 b).or (numberIn? 0xA1 0xFE 63 b)
      at? big5Table (157 * row + second)).toList

/-- The front of a text in Big5. -/
def big5Front : UInt8 → List UInt8 → Piece :=
  doubleByteFront ascii? (fun b => (numberIn? 0x81 0xFE 0 b).isSome) big5Pair

end MachiningViewer.Text.Charset
