import MachiningViewer.Text.Utf8

/-!
# Character sets of several bytes

The sets of East Asia hold thousands of characters. Most of these are written in two bytes or more,
of which the first cannot be a character by itself. The characters stand in tables of rows, and a
place that a table leaves open is filled with U+FFFD.

A text is read piece by piece (`decodePieces`). Bytes that are no character give one replacement
character; the last of them is read again if it is ASCII, so that no mark-up can hide in it
(`Piece.malformed`).
-/

namespace MachiningViewer.Text.Charset

open Utf8 (replacement)

/-! ### Tables -/

/-- The places of a table that is given by rows of so many places each. What a row leaves out at its
end is open. -/
def ofRows (width : Nat) (rows : List String) : Array Char :=
  rows.foldl (fun places row =>
    let cs := row.toList
    places ++ (cs ++ List.replicate (width - cs.length) replacement).toArray) #[]

/-- The character at a place of a table, if there is one. -/
def at? (table : Array Char) (place : Nat) : Option Char :=
  (table[place]?).filter (· ≠ replacement)

/-- A byte's number in a run of bytes, both ends included, that are numbered from `start` on. -/
def numberIn? (first last : UInt8) (start : Nat) (b : UInt8) : Option Nat :=
  if first ≤ b && b ≤ last then some (start + (b.toNat - first.toNat)) else none

/-- The place that two bytes from 0xA1 to 0xFE give in a table with rows of 94 places. -/
def place94? (first second : UInt8) : Option Nat := do
  pure (94 * (← numberIn? 0xA1 0xFE 0 first) + (← numberIn? 0xA1 0xFE 0 second))

/-! ### Pieces of a text -/

/-- What stands at the front of some bytes: the characters that it gives, and how many bytes it has
after the first one. -/
structure Piece where
  chars : List Char
  more : Nat
  deriving DecidableEq, Repr

namespace Piece

/-- A character. -/
def character (c : Char) (more : Nat) : Piece :=
  ⟨[c], more⟩

/-- A malformed piece whose last byte, at this distance from the first, is given too. -/
def malformed (distance : Nat) (last : UInt8) : Piece :=
  ⟨[replacement], if last < 0x80 then distance - 1 else distance⟩

/-- A malformed piece with the number of bytes after the first. -/
def broken (more : Nat) : Piece :=
  ⟨[replacement], more⟩

/-- A piece of two bytes that gives some characters and is malformed if it gives none. -/
def double (chars : List Char) (second : UInt8) : Piece :=
  if chars.isEmpty then malformed 1 second else ⟨chars, 1⟩

end Piece

/-- Reads a text piece by piece. -/
def decodePieces (front : UInt8 → List UInt8 → Piece) : List UInt8 → List Char
  | [] => []
  | a :: rest =>
    let piece := front a rest
    piece.chars ++ decodePieces front (rest.drop piece.more)
termination_by bytes => bytes.length
decreasing_by simp only [List.length_drop, List.length_cons]; omega

/-- The front of a text in a set of one and two bytes. A byte is either a character by itself
(`single`) or may begin one (`isFirst`) or neither, and two bytes are some characters (`double`). -/
def doubleByteFront (single : UInt8 → Option Char) (isFirst : UInt8 → Bool)
    (double : UInt8 → UInt8 → List Char) (a : UInt8) (rest : List UInt8) : Piece :=
  match single a with
  | some c => .character c 0
  | none =>
    match isFirst a, rest with
    | true, b :: _ => .double (double a b) b
    | _, _ => .broken 0

/-- The character of a byte of ASCII. -/
def ascii? (b : UInt8) : Option Char :=
  if b < 0x80 then some (Char.ofNat b.toNat) else none

end MachiningViewer.Text.Charset
