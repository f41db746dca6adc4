/-!
# UTF-8

UTF-8 writes a character as one to four bytes. Which bytes may follow a first byte is a table of
ranges (`followers`); it leaves out the longer spellings of a character that has a shorter one, the
surrogates, and everything beyond the last character.

Bytes that keep to no row of the table are *malformed*. The malformed run at some place is the
longest one that begins like a character, or a single byte if there is none, so that reading goes on
at the first byte that may begin a character (`read`). A text is then decoded in two ways:
`decodeLossy` puts U+FFFD for each malformed run, and `decodePart` stops at the first.
-/

namespace MachiningViewer.Text.Utf8

/-- A range of bytes, both ends included. -/
abbrev Range := UInt8 × UInt8

/-- Does a byte lie in a range? -/
def inRange (r : Range) (b : UInt8) : Bool :=
  r.1 ≤ b && b ≤ r.2

/-- The range of a byte that continues a character, where nothing narrower is asked for. -/
def tail : Range :=
  (0x80, 0xBF)

/-- The ranges of the bytes that follow a first byte, if a character may begin with it. -/
def followers (lead : UInt8) : Option (List Range) :=
  if lead < 0x80 then some []
  else if inRange (0xC2, 0xDF) lead then some [tail]
  else if lead == 0xE0 then some [(0xA0, 0xBF), tail]
  else if lead == 0xED then some [(0x80, 0x9F), tail]
  else if inRange (0xE1, 0xEF) lead then some [tail, tail]
  else if lead == 0xF0 then some [(0x90, 0xBF), tail, tail]
  else if inRange (0xF1, 0xF3) lead then some [tail, tail, tail]
  else if lead == 0xF4 then some [(0x80, 0x8F), tail, tail]
  else none

/-- The bits that a first byte gives to its character when `count` bytes follow it. -/
def leadBits (count : Nat) (lead : UInt8) : Nat :=
  match count with
  | 0 => lead.toNat
  | 1 => lead.toNat % 0x20
  | 2 => lead.toNat % 0x10
  | _ => lead.toNat % 0x08

/-- The character of a first byte and the bytes that follow it, six bits each. -/
def assemble (lead : UInt8) (following : List UInt8) : Char :=
  Char.ofNat (following.foldl (fun n b => n * 0x40 + b.toNat % 0x40)
    (leadBits following.length lead))

/-- How bytes keep to a list of ranges: the bytes that do, and whether they are all that is asked
for, too few because the input ends, or too few because another byte comes. -/
inductive Fit where
  | whole
  | ended
  | broken
  deriving DecidableEq, Repr

/-- The longest beginning of `bytes` that keeps to the ranges. -/
def fit : List Range → List UInt8 → List UInt8 × Fit
  | [], _ => ([], .whole)
  | _ :: _, [] => ([], .ended)
  | r :: rs, b :: bs =>
    if inRange r b then
      let (kept, outcome) := fit rs bs
      (b :: kept, outcome)
    else ([], .broken)

/-- What stands at the front of a list of bytes. -/
inductive Front where
  /-- A character, and how many bytes it has after the first. -/
  | character (c : Char) (more : Nat)
  /-- A malformed run, and how many bytes it has after the first. -/
  | malformed (more : Nat)
  /-- The input ends within what may become a character. -/
  | unfinished
  deriving DecidableEq, Repr

/-- Reads the front of the bytes that begin with `lead`. -/
def front (lead : UInt8) (rest : List UInt8) : Front :=
  match followers lead with
  | none => .malformed 0
  | some ranges =>
    match fit ranges rest with
    | (kept, .whole) => .character (assemble lead kept) kept.length
    | (kept, .broken) => .malformed kept.length
    | (_, .ended) => .unfinished

/-! ### Decoding -/

/-- The character that stands for what cannot be decoded. -/
def replacement : Char :=
  '\uFFFD'

/-- Decodes all bytes, with a replacement character for each malformed run. An unfinished character
at the end is one such run. -/
def decodeLossy : List UInt8 → List Char
  | [] => []
  | lead :: rest =>
    match front lead rest with
    | .character c more => c :: decodeLossy (rest.drop more)
    | .malformed more => replacement :: decodeLossy (rest.drop more)
    | .unfinished => [replacement]
termination_by bytes => bytes.length
decreasing_by all_goals simp only [List.length_drop, List.length_cons]; omega

/-- Decodes bytes up to the first that are no character, and answers with the bytes from there on.
-/
def decodePart : List UInt8 → List Char × List UInt8
  | [] => ([], [])
  | lead :: rest =>
    match front lead rest with
    | .character c more =>
      let (cs, remainder) := decodePart (rest.drop more)
      (c :: cs, remainder)
    | _ => ([], lead :: rest)
termination_by bytes => bytes.length
decreasing_by simp only [List.length_drop, List.length_cons]; omega

/-- Decodes bytes that are UTF-8 throughout. -/
def decode? (bytes : List UInt8) : Option String :=
  match decodePart bytes with
  | (cs, []) => some (String.ofList cs)
  | _ => none

/-- What is wrong with bytes that do not begin with a character, in words. -/
def fault (bytes : List UInt8) : String :=
  match bytes with
  | [] => ""
  | lead :: rest =>
    match front lead rest with
    | .malformed more =>
      "invalid utf-8 sequence of " ++ toString (more + 1) ++ " bytes from index 0"
    | _ => "incomplete utf-8 byte sequence from index 0"

/-- The bytes of a text. -/
def encode (s : String) : List UInt8 :=
  s.toUTF8.data.toList

/-! ### Facts -/

/-- What is kept is the beginning of the bytes. -/
theorem fit_prefix (ranges : List Range) (bytes : List UInt8) :
    (fit ranges bytes).1 <+: bytes := by
  fun_induction fit ranges bytes with
  | case1 => exact List.nil_prefix
  | case2 => exact List.nil_prefix
  | case3 r rs b bs _ kept outcome h ih =>
    rw [h] at ih
    exact List.cons_prefix_cons.2 ⟨rfl, ih⟩
  | case4 => exact List.nil_prefix

/-- A byte of ASCII is a character by itself. -/
theorem front_of_ascii {lead : UInt8} (h : lead < 0x80) (rest : List UInt8) :
    front lead rest = .character (Char.ofNat lead.toNat) 0 := by
  simp [front, followers, h, fit, assemble, leadBits]

end MachiningViewer.Text.Utf8
