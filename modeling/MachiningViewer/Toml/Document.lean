import MachiningViewer.Toml.Key
import MachiningViewer.Toml.Scalar
import MachiningViewer.Toml.Table

/-!
# TOML documents

A document is a sequence of lines: pairs of a key and a value, headers of tables, blank lines and
comments. `Document.read?` reads all of it or nothing, so a document with a fault of form anywhere
has no content.
-/

namespace MachiningViewer.Toml

/-! ### Values -/

mutual

/-- The value at the front of a text, in which others are nested at most `depth` deep, and what
follows it. Each step uses up a character, so the length of the text is fuel enough. -/
def readValue? : Nat → Nat → List Char → Option (Value × List Char)
  | 0, _, _ => none
  | fuel + 1, depth, cs =>
    match cs with
    | '[' :: rest =>
      match depth with
      | 0 => none
      | depth + 1 => do
        let (vs, rest) ← readItems? fuel depth rest
        pure (.array vs, rest)
    | '\x7b' :: rest =>
      match depth with
      | 0 => none
      | depth + 1 =>
        match skipSpace rest with
        | '\x7d' :: rest => some (.table [], rest)
        | _ => do
          let (es, rest) ← readPairs? fuel depth [] rest
          pure (.table (finishEntries es), rest)
    | cs =>
      match readString? cs with
      | some (s, rest) => some (.string s, rest)
      | none => readScalar? cs

/-- The items of an array from the next one on, and what follows the array. A comma may stand behind
the last. -/
def readItems? : Nat → Nat → List Char → Option (List Value × List Char)
  | 0, _, _ => none
  | fuel + 1, depth, cs => do
    match ← skipBlank? false cs with
    | ']' :: rest => pure ([], rest)
    | cs =>
      let (v, rest) ← readValue? fuel depth cs
      match ← skipBlank? false rest with
      | ']' :: rest => pure ([v], rest)
      | ',' :: rest =>
        let (vs, rest) ← readItems? fuel depth rest
        pure (v :: vs, rest)
      | _ => none

/-- The entries of a table in braces from the next pair on, added to those before it, and what
follows the table. -/
def readPairs? : Nat → Nat → Entries → List Char → Option (Entries × List Char)
  | 0, _, _, _ => none
  | fuel + 1, depth, es, cs => do
    let (path, key, rest) ← readPath? cs
    match rest with
    | '=' :: rest =>
      let (v, rest) ← readValue? fuel depth (skipSpace rest)
      let es ← es.addPair path key v
      match skipSpace rest with
      | '\x7d' :: rest => pure (es, rest)
      | ',' :: rest => readPairs? fuel depth es rest
      | _ => none
    | _ => none

end

/-! ### Lines -/

/-- What a document says. -/
inductive Line where
  | pair (path : List String) (key : String) (v : Value)
  | table (path : List String) (key : String)
  /-- The header of one of several tables. -/
  | element (path : List String) (key : String)
  deriving Repr

/-- Reads a header that ends with `closing`, and answers with what follows its line. -/
def readHeader? (closing : List Char) (cs : List Char) :
    Option (List String × String × List Char) := do
  let (path, key, rest) ← readPath? cs
  guard (closing.isPrefixOf rest)
  let rest ← lineEnd? false (rest.drop closing.length)
  pure (path, key, rest)

/-- Reads a pair, and answers with what follows its line. -/
def readPair? (cs : List Char) : Option (Line × List Char) := do
  let (path, key, rest) ← readPath? cs
  match rest with
  | '=' :: rest =>
    let (v, rest) ← readValue? (rest.length + 1) mostLevels (skipSpace rest)
    let rest ← lineEnd? false rest
    pure (.pair path key v, rest)
  | _ => none

/-- Reads a line that says something, and answers with what follows it. -/
def readLine? (cs : List Char) : Option (Line × List Char) :=
  match cs with
  | '[' :: '[' :: rest =>
    (readHeader? [']', ']'] rest).map fun (path, key, rest) => (.element path key, rest)
  | '[' :: rest => (readHeader? [']'] rest).map fun (path, key, rest) => (.table path key, rest)
  | cs => readPair? cs

/-- Reads all lines. Each uses up a character, so the length of the text is fuel enough. -/
def readLines? : Nat → List Char → Option (List Line)
  | 0, _ => none
  | fuel + 1, cs => do
    match ← skipBlank? false cs with
    | [] => pure []
    | cs =>
      let (line, rest) ← readLine? cs
      let lines ← readLines? fuel rest
      pure (line :: lines)

/-! ### Content -/

/-- What has been built, and the path of the table to which pairs are added. -/
structure Building where
  root : Entries
  current : List String

/-- Adds a line. -/
def Building.add? (b : Building) : Line → Option Building
  | .pair path key v => do
    let root ← Entries.changeAt false (fun _ es => es.addPair path key v) b.current .defined b.root
    pure { b with root }
  | .table path key => do
    pure ⟨← b.root.define path key, path ++ [key]⟩
  | .element path key => do
    pure ⟨← b.root.append path key, path ++ [key]⟩

/-- A text without the byte order mark that may stand at its front. -/
def withoutMark : List Char → List Char
  | '\uFEFF' :: cs => cs
  | cs => cs

/-- Reads a document, which is a table. -/
def read? (text : String) : Option Value := do
  let cs := withoutMark text.toList
  let lines ← readLines? (cs.length + 1) cs
  let b ← lines.foldlM Building.add? ⟨[], []⟩
  pure (.table (finishEntries b.root))

end MachiningViewer.Toml
