import MachiningViewer.Http.Domain.Variants
import MachiningViewer.Text.Composed.Basic
import MachiningViewer.Text.Digit
import MachiningViewer.Text.Utf8

/-!
# The spelling of names

Of the ways to write a name one counts: each character in its plain form, and the text composed.
`spelled?` gives it, and a name is well spelled if it is its own spelling.
-/

namespace MachiningViewer.Http.Domain

open Text (Runs)
open Text.Utf8 (replacement)

/-- The characters that stand for one other. -/
def plain : Runs Char :=
  (plainRuns.map fun (first, text) => (first, text.toList.toArray)).toArray

/-- The characters that stand for several. -/
def spelledOut : Runs String :=
  (spelledRuns.map fun (first, text) => (first, (text.splitOn "\n").toArray)).toArray

/-- What is written for a character, if it may be in a name. -/
def spell? (c : Char) : Option (List Char) :=
  if c.toNat < 0x80 then some [c.toLower]
  else
    match (plain.at? c).filter (· != replacement) with
    | some d => some [d]
    | none =>
      match spelledOut.at? c with
      | some text => some text.toList
      | none =>
        if Text.isInRanges silentRanges c then some []
        else if Text.isInRanges refusedRanges c then none
        else some [c]

/-- The spelling of a text that counts. -/
def spelled? (cs : List Char) : Option (List Char) := do
  pure (Text.composed (← cs.mapM spell?).flatten)

end MachiningViewer.Http.Domain
