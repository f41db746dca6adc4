import MachiningViewer.Text.Digit
import MachiningViewer.Toml.Layout

/-!
# TOML strings

A string stands between quotation marks or apostrophes, one on each side or three; with three it may
go over several lines. Only between quotation marks does a backslash have a meaning. The end of a
line inside a string is a line feed, however it is written.
-/

namespace MachiningViewer.Toml

/-- The character that a letter stands for behind a backslash. -/
def escaped? (c : Char) : Option Char :=
  if c = 'b' then some '\x08'
  else if c = 't' then some '\t'
  else if c = 'n' then some '\n'
  else if c = 'f' then some '\x0c'
  else if c = 'r' then some '\r'
  else if c = '"' then some '"'
  else if c = '\\' then some '\\'
  else none

/-- The character whose number is given by hexadecimal digits. -/
def numbered? (ds : List Char) : Option Char := do
  let n ← Text.hexNumber? ds
  if n.isValidChar then some (Char.ofNat n) else none

/-- How many digits follow a letter behind a backslash. -/
def escapeSize (e : Char) : Nat :=
  if e = 'u' then 4 else if e = 'U' then 8 else 0

/-- Reads an escape behind its backslash, and answers with what follows it. -/
def readEscape? : List Char → Option (Char × List Char)
  | [] => none
  | e :: rest =>
    let ds := rest.take (escapeSize e)
    let c := if escapeSize e = 0 then escaped? e else numbered? ds
    if ds.length = escapeSize e then c.map fun c => (c, rest.drop (escapeSize e)) else none

theorem length_readEscape?_lt {cs rest : List Char} {c : Char}
    (h : readEscape? cs = some (c, rest)) : rest.length < cs.length := by
  cases cs with
  | nil => simp [readEscape?] at h
  | cons e cs =>
    dsimp only [readEscape?] at h
    split at h
    · obtain ⟨_, _, he⟩ := Option.map_eq_some_iff.1 h
      obtain ⟨-, rfl⟩ := Prod.mk.inj he
      simp only [List.length_drop, List.length_cons]
      omega
    · simp at h

/-! ### Strings of one line -/

/-- The characters of a string behind its opening quotation mark, and what follows its closing one.
-/
def readBasic? : List Char → Option (List Char × List Char)
  | [] => none
  | '"' :: rest => some ([], rest)
  | '\\' :: rest =>
    match _h : readEscape? rest with
    | none => none
    | some (c, rest) => (readBasic? rest).map fun (cs, rest) => (c :: cs, rest)
  | c :: rest =>
    if isPlain c then (readBasic? rest).map fun (cs, rest) => (c :: cs, rest) else none
termination_by cs => cs.length
decreasing_by
  · have := length_readEscape?_lt _h
    simp only [List.length_cons]
    omega
  · simp

/-- The characters of a string behind its opening apostrophe, and what follows its closing one. -/
def readLiteral? : List Char → Option (List Char × List Char)
  | [] => none
  | '\'' :: rest => some ([], rest)
  | c :: rest =>
    if isPlain c then (readLiteral? rest).map fun (cs, rest) => (c :: cs, rest) else none

/-! ### Strings of several lines -/

/-- Drops the end of a line that stands right behind the opening marks. -/
def skipFirstNewline : List Char → List Char
  | '\n' :: rest => rest
  | '\r' :: '\n' :: rest => rest
  | cs => cs

/-- Passes over the ends of lines and the spaces around them, as far as each carriage return belongs
to one. -/
def skipFolded : List Char → List Char
  | '\r' :: '\n' :: rest => skipFolded rest
  | c :: rest => if isSpace c || c == '\n' then skipFolded rest else c :: rest
  | [] => []

/-- What follows a backslash at the end of a line: the next character that is not blank. -/
def afterFold? (cs : List Char) : Option (List Char) :=
  match skipSpace cs with
  | '\n' :: rest => some (skipFolded rest)
  | '\r' :: '\n' :: rest => some (skipFolded rest)
  | _ => none

theorem length_skipFolded_le (cs : List Char) : (skipFolded cs).length ≤ cs.length := by
  fun_induction skipFolded cs <;> simp_all <;> omega

theorem length_afterFold?_lt {cs rest : List Char} (h : afterFold? cs = some rest) :
    rest.length < cs.length := by
  have hs := length_skipSpace_le cs
  unfold afterFold? at h
  split at h
  · rename_i r heq
    have := length_skipFolded_le r
    rw [heq] at hs
    simp_all
    omega
  · rename_i r heq
    have := length_skipFolded_le r
    rw [heq] at hs
    simp_all
    omega
  · simp at h

/-- The characters of a string behind its three opening quotation marks, and what follows its
closing ones. One or two quotation marks in a row belong to the string, also right before the
closing ones. -/
def readBasicLines? : List Char → Option (List Char × List Char)
  | [] => none
  | '"' :: '"' :: '"' :: '"' :: '"' :: rest => some (['"', '"'], rest)
  | '"' :: '"' :: '"' :: '"' :: rest => some (['"'], rest)
  | '"' :: '"' :: '"' :: rest => some ([], rest)
  | '\\' :: rest =>
    match _h : afterFold? rest with
    | some rest => readBasicLines? rest
    | none =>
      match _h : readEscape? rest with
      | none => none
      | some (c, rest) => (readBasicLines? rest).map fun (cs, rest) => (c :: cs, rest)
  | '\r' :: '\n' :: rest => (readBasicLines? rest).map fun (cs, rest) => ('\n' :: cs, rest)
  | c :: rest =>
    if isPlain c || c == '\n' then
      (readBasicLines? rest).map fun (cs, rest) => (c :: cs, rest)
    else none
termination_by cs => cs.length
decreasing_by
  · have := length_afterFold?_lt _h
    simp only [List.length_cons]
    omega
  · have := length_readEscape?_lt _h
    simp only [List.length_cons]
    omega
  · simp only [List.length_cons]
    omega
  · simp

/-- The characters of a string behind its three opening apostrophes, and what follows its closing
ones. -/
def readLiteralLines? : List Char → Option (List Char × List Char)
  | [] => none
  | '\'' :: '\'' :: '\'' :: '\'' :: '\'' :: rest => some (['\'', '\''], rest)
  | '\'' :: '\'' :: '\'' :: '\'' :: rest => some (['\''], rest)
  | '\'' :: '\'' :: '\'' :: rest => some ([], rest)
  | '\r' :: '\n' :: rest => (readLiteralLines? rest).map fun (cs, rest) => ('\n' :: cs, rest)
  | c :: rest =>
    if isPlain c || c == '\n' then
      (readLiteralLines? rest).map fun (cs, rest) => (c :: cs, rest)
    else none

/-! ### All strings -/

/-- The string at the front of a text, if one begins there, and what follows it. -/
def readString? : List Char → Option (String × List Char)
  | '"' :: '"' :: '"' :: rest =>
    (readBasicLines? (skipFirstNewline rest)).map fun (cs, rest) => (String.ofList cs, rest)
  | '"' :: rest => (readBasic? rest).map fun (cs, rest) => (String.ofList cs, rest)
  | '\'' :: '\'' :: '\'' :: rest =>
    (readLiteralLines? (skipFirstNewline rest)).map fun (cs, rest) => (String.ofList cs, rest)
  | '\'' :: rest => (readLiteral? rest).map fun (cs, rest) => (String.ofList cs, rest)
  | _ => none

/-- A string of one line at the front of a text, if one begins there, and what follows it. -/
def readShortString? : List Char → Option (String × List Char)
  | '"' :: rest => (readBasic? rest).map fun (cs, rest) => (String.ofList cs, rest)
  | '\'' :: rest => (readLiteral? rest).map fun (cs, rest) => (String.ofList cs, rest)
  | _ => none

end MachiningViewer.Toml
