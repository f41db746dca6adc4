import MachiningViewer.Text.Charset.Multibyte
import MachiningViewer.Text.Charset.Jis0208
import MachiningViewer.Text.Charset.Jis0212

/-!
# Japanese texts

Three ways of writing the same characters: Shift JIS, with up to two bytes for a character; EUC-JP,
with up to three; and ISO 2022, where every byte is below 0x80 and escape sequences say what the
bytes behind them mean.
-/

namespace MachiningViewer.Text.Charset

open Utf8 (replacement)

/-! ### Tables -/

/-- The basic set. -/
def basicTable : Array Char := ofRows 94 Jis0208.rows

/-- The rows that only Shift JIS reaches. -/
def furtherTable : Array Char := ofRows 94 Jis0208.furtherRows

/-- The supplementary set. -/
def supplementaryTable : Array Char := ofRows 94 Jis0212.rows

/-- The narrow letter of the syllabary with a number. -/
def narrow (n : Nat) : Char :=
  Char.ofNat (0xFF61 + n)

/-- The first place of the characters of users, and the first one behind them. -/
def userPlaces : Nat × Nat :=
  (94 * 94, 114 * 94)

/-- The character at a place that Shift JIS reaches. -/
def shiftJisAt? (place : Nat) : Option Char :=
  if place < userPlaces.1 then at? basicTable place
  else if place < userPlaces.2 then some (Char.ofNat (0xE000 + (place - userPlaces.1)))
  else at? furtherTable (place - userPlaces.2)

/-! ### Shift JIS -/

/-- The number of the pair of rows that a first byte gives. -/
def shiftJisRows? (b : UInt8) : Option Nat :=
  (numberIn? 0x81 0x9F 0 b).or (numberIn? 0xE0 0xFC 31 b)

/-- The place that a second byte gives in a pair of rows. -/
def shiftJisPlace? (b : UInt8) : Option Nat :=
  (numberIn? 0x40 0x7E 0 b).or (numberIn? 0x80 0xFC 63 b)

/-- The front of a text in Shift JIS. -/
def shiftJisFront : UInt8 → List UInt8 → Piece :=
  doubleByteFront
    (fun b => if b ≤ 0x80 then some (Char.ofNat b.toNat) else (numberIn? 0xA1 0xDF 0 b).map narrow)
    (fun b => (shiftJisRows? b).isSome)
    (fun a b => (do shiftJisAt? (188 * (← shiftJisRows? a) + (← shiftJisPlace? b))).toList)

/-! ### EUC-JP -/

/-- The first byte of a narrow letter. -/
def narrowMark : UInt8 := 0x8E

/-- The first byte of a character of the supplementary set. -/
def supplementaryMark : UInt8 := 0x8F

/-- The characters of two bytes. -/
def eucJpPair (a b : UInt8) : List Char :=
  if a == narrowMark then ((numberIn? 0xA1 0xDF 0 b).map narrow).toList
  else ((place94? a b).bind (at? basicTable)).toList

/-- Does a character of two bytes begin with the byte? -/
def isEucJpFirst (b : UInt8) : Bool :=
  b == narrowMark || (numberIn? 0xA1 0xFE 0 b).isSome

/-- The front of a text in EUC-JP. -/
def eucJpFront (a : UInt8) (rest : List UInt8) : Piece :=
  if a == supplementaryMark then
    match rest with
    | [] => .broken 0
    | b :: last =>
      if (numberIn? 0xA1 0xFE 0 b).isNone then .malformed 1 b
      else
        match last with
        | [] => .broken 1
        | c :: _ =>
          match (place94? b c).bind (at? supplementaryTable) with
          | some x => .character x 2
          | none => .malformed 2 c
  else doubleByteFront ascii? isEucJpFirst eucJpPair a rest

/-! ### ISO 2022 -/

/-- What bytes mean. -/
inductive JisMode where
  | ascii
  | roman
  | narrow
  | double
  deriving DecidableEq, Repr

/-- The character that introduces an escape sequence. -/
def escapeByte : UInt8 := 0x1B

/-- The mode that the two bytes of an escape sequence choose. -/
def JisMode.ofEscape? (a b : UInt8) : Option JisMode :=
  if a == 0x28 then
    if b == 0x42 then some .ascii
    else if b == 0x4A then some .roman
    else if b == 0x49 then some .narrow else none
  else if a == 0x24 && (b == 0x40 || b == 0x42) then some .double
  else none

/-- The character of a byte in a mode with one byte for a character. The two modes for letters
differ in a currency sign and an overline. -/
def JisMode.char? (mode : JisMode) (b : UInt8) : Option Char :=
  match mode with
  | .narrow => (numberIn? 0x21 0x5F 0 b).map Charset.narrow
  | .double => none
  | _ =>
    if 0x80 ≤ b || b == 0x0E || b == 0x0F then none
    else if mode == .roman && b == 0x5C then some '¥'
    else if mode == .roman && b == 0x7E then some '‾'
    else some (Char.ofNat b.toNat)

/-- The place of two bytes in the mode with two bytes for a character, if both may stand there. -/
def jisPlace? (a b : UInt8) : Option Nat := do
  pure (94 * (← numberIn? 0x21 0x7E 0 a) + (← numberIn? 0x21 0x7E 0 b))

/-- The mode that an escape sequence chose, and whether nothing has been written in it so far. -/
structure JisState where
  mode : JisMode
  isFresh : Bool
  deriving DecidableEq, Repr

/-- A malformed piece, which leaves the mode as it is. -/
def JisState.broken (state : JisState) : Piece × JisState :=
  (.broken 0, ⟨state.mode, false⟩)

/-- The front of a text in ISO 2022, and the state behind it. An escape sequence that follows
another one directly gives a replacement character: nothing is written in the mode between them. -/
def JisState.front (state : JisState) (a : UInt8) (rest : List UInt8) : Piece × JisState :=
  if a == escapeByte then
    match rest with
    | b :: c :: _ =>
      match JisMode.ofEscape? b c with
      | some mode => (⟨if state.isFresh then [replacement] else [], 2⟩, ⟨mode, true⟩)
      | none => state.broken
    | _ => state.broken
  else if state.mode == .double && (numberIn? 0x21 0x7E 0 a).isSome then
    match rest with
    | [] => state.broken
    | b :: _ =>
      if b == escapeByte then state.broken
      else
        (.character (((jisPlace? a b).bind (at? basicTable)).getD replacement) 1,
          ⟨state.mode, false⟩)
  else (.character ((state.mode.char? a).getD replacement) 0, ⟨state.mode, false⟩)

/-- Decodes ISO 2022 in a state. -/
def decodeJis (state : JisState) : List UInt8 → List Char
  | [] => []
  | a :: rest =>
    let (piece, next) := state.front a rest
    piece.chars ++ decodeJis next (rest.drop piece.more)
termination_by bytes => bytes.length
decreasing_by simp only [List.length_drop, List.length_cons]; omega

end MachiningViewer.Text.Charset
