import MachiningViewer.Text.Blank

/-!
# The layout of a TOML document

Which characters a document may hold, where its lines end, and what is passed over between its
parts: spaces, and comments up to the end of their line.
-/

namespace MachiningViewer.Toml

/-- A character that may stand inside a line. -/
def isPlain (c : Char) : Bool :=
  c == '\t' || (0x20 ≤ c.toNat && c.toNat ≠ 0x7F)

/-- The two blanks inside a line. -/
def isSpace (c : Char) : Bool :=
  c == ' ' || c == '\t'

/-- Drops the spaces at the front. -/
def skipSpace (cs : List Char) : List Char :=
  cs.dropWhile isSpace

/-- Passes over spaces, the ends of lines, and comments, possibly from inside a comment on. -/
def skipBlank? (inComment : Bool) : List Char → Option (List Char)
  | [] => some []
  | '\n' :: rest => skipBlank? false rest
  | '\r' :: '\n' :: rest => skipBlank? false rest
  | c :: rest =>
    if inComment then if isPlain c then skipBlank? true rest else none
    else if isSpace c then skipBlank? false rest
    else if c = '#' then skipBlank? true rest
    else some (c :: rest)

/-- Passes over what may stand at the end of a line, and over the end of the line itself. -/
def lineEnd? (inComment : Bool) : List Char → Option (List Char)
  | [] => some []
  | '\n' :: rest => some rest
  | '\r' :: '\n' :: rest => some rest
  | c :: rest =>
    if inComment then if isPlain c then lineEnd? true rest else none
    else if isSpace c then lineEnd? false rest
    else if c = '#' then lineEnd? true rest
    else none

/-! ### What is left -/

theorem length_skipSpace_le (cs : List Char) : (skipSpace cs).length ≤ cs.length :=
  (List.dropWhile_sublist isSpace).length_le

end MachiningViewer.Toml
