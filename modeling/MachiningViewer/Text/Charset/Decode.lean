import MachiningViewer.Text.Charset.Label
import MachiningViewer.Text.Charset.Japanese
import MachiningViewer.Text.Charset.Chinese
import MachiningViewer.Text.Charset.Korean

/-!
# Decoding a text from bytes

Every sequence of bytes decodes: what is malformed gives replacement characters. A byte order mark
at the front is no part of the text, and what it says about the bytes goes before what a label says
(`Charset.decode`).
-/

namespace MachiningViewer.Text.Charset

open Utf8 (replacement)

/-! ### Units of 16 bits -/

/-- The number that two bytes make. -/
def unit (order : ByteOrder) (first second : UInt8) : Nat :=
  match order with
  | .littleEndian => first.toNat + 0x100 * second.toNat
  | .bigEndian => 0x100 * first.toNat + second.toNat

/-- The units that bytes make, and whether a single byte is left over. -/
def units (order : ByteOrder) : List UInt8 → List Nat × Bool
  | [] => ([], false)
  | [_] => ([], true)
  | a :: b :: rest =>
    let (us, odd) := units order rest
    (unit order a b :: us, odd)

/-- The first unit of a pair that stands for a character beyond U+FFFF. -/
def isHighSurrogate (u : Nat) : Bool :=
  0xD800 ≤ u && u < 0xDC00

/-- The second unit of such a pair. -/
def isLowSurrogate (u : Nat) : Bool :=
  0xDC00 ≤ u && u < 0xE000

/-- The characters of units. A surrogate without its partner gives a replacement character, and so
does a byte that is left over; the two together at the end give one. -/
def ofUnits (odd : Bool) : List Nat → List Char
  | [] => if odd then [replacement] else []
  | [u] =>
    if isHighSurrogate u then [replacement]
    else (if isLowSurrogate u then replacement else Char.ofNat u) ::
      (if odd then [replacement] else [])
  | u :: v :: rest =>
    if isHighSurrogate u then
      if isLowSurrogate v then
        Char.ofNat (0x10000 + 0x400 * (u - 0xD800) + (v - 0xDC00)) :: ofUnits odd rest
      else replacement :: ofUnits odd (v :: rest)
    else (if isLowSurrogate u then replacement else Char.ofNat u) :: ofUnits odd (v :: rest)

/-! ### All sets -/

/-- The character of a byte in a single-byte set. -/
def ofByte (upperHalf : List Char) (b : UInt8) : Char :=
  if b < 0x80 then Char.ofNat b.toNat else upperHalf.getD (b.toNat - 0x80) replacement

/-- The character of a byte in the set that its user defines. -/
def ofUserByte (b : UInt8) : Char :=
  Char.ofNat (if b < 0x80 then b.toNat else 0xF700 + b.toNat)

/-- Decodes bytes without a byte order mark. -/
def decodePlain (charset : Charset) (bytes : List UInt8) : List Char :=
  match charset with
  | utf8 => Utf8.decodeLossy bytes
  | utf16 order =>
    let (us, odd) := units order bytes
    ofUnits odd us
  | singleByte upperHalf =>
    let table := upperHalf.toList
    bytes.map (ofByte table)
  | userDefined => bytes.map ofUserByte
  | gb18030 => decodePieces gbFront bytes
  | big5 => decodePieces big5Front bytes
  | shiftJis => decodePieces shiftJisFront bytes
  | eucJp => decodePieces eucJpFront bytes
  | iso2022 => decodeJis ⟨.ascii, false⟩ bytes
  | eucKr => decodePieces eucKrFront bytes
  | unreadable => if bytes.isEmpty then [] else [replacement]

/-- The set that a byte order mark at the front stands for, and the bytes after the mark. -/
def ofMark? : List UInt8 → Option (Charset × List UInt8)
  | 0xEF :: 0xBB :: 0xBF :: rest => some (utf8, rest)
  | 0xFF :: 0xFE :: rest => some (utf16 .littleEndian, rest)
  | 0xFE :: 0xFF :: rest => some (utf16 .bigEndian, rest)
  | _ => none

/-- Decodes bytes that are labelled as written in a set. A byte order mark goes before the label. -/
def decode (charset : Charset) (bytes : List UInt8) : String :=
  String.ofList <|
    match ofMark? bytes with
    | some (marked, rest) => marked.decodePlain rest
    | none => charset.decodePlain bytes

end MachiningViewer.Text.Charset
