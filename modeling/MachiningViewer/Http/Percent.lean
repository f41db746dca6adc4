import MachiningViewer.Text.Blank
import MachiningViewer.Text.Digit
import MachiningViewer.Text.Utf8

/-!
# Percent-encoding

Inside a URL a byte may be written as a percent sign and two hexadecimal digits. Which characters
are written that way differs from one part of a URL to the next; each part has a set (`Set`), and
every set holds the controls and all that is not ASCII.
-/

namespace MachiningViewer.Http.Percent

/-- A digit of a hexadecimal number, in capitals. -/
def digit (n : Nat) : Char :=
  if n < 10 then Char.ofNat (0x30 + n) else Char.ofNat (0x37 + n)

/-- A byte as a percent sign and two digits. -/
def ofByte (b : UInt8) : List Char :=
  ['%', digit (b.toNat / 16), digit (b.toNat % 16)]

/-! ### The sets -/

/-- The characters that one part of a URL does not hold as they are. -/
abbrev Set := Char → Bool

/-- Controls, and what is not ASCII. -/
def controls : Set :=
  fun c => c.toNat < 0x20 || 0x7E < c.toNat

/-- A set with some characters more. -/
def Set.with (s : Set) (more : String) : Set :=
  fun c => s c || more.toList.contains c

/-- The set of fragments. -/
def fragment : Set :=
  Set.with controls " \"<>\x60"

/-- The set of path segments. -/
def path : Set :=
  Set.with fragment "#?\x7b\x7d"

/-- The set of queries. -/
def query : Set :=
  Set.with controls " \"#<>"

/-- The set of queries of URLs whose scheme is special. -/
def specialQuery : Set :=
  Set.with query "'"

/-- The set of user names and passwords. -/
def userInfo : Set :=
  Set.with path "/:;=@[\\]^|"

/-! ### Encoding and decoding -/

/-- A character as it stands in a part with a set. -/
def encodeChar (s : Set) (c : Char) : List Char :=
  if s c then (Text.Utf8.encode (String.singleton c)).flatMap ofByte else [c]

/-- A text as it stands in a part with a set. -/
def encode (s : Set) (cs : List Char) : List Char :=
  cs.flatMap (encodeChar s)

/-- The bytes of a text in which bytes may be percent-encoded. -/
def decode : List Char → List UInt8
  | '%' :: a :: b :: rest =>
    match Text.hexValue? a, Text.hexValue? b with
    | some x, some y => UInt8.ofNat (16 * x + y) :: decode rest
    | _, _ => 0x25 :: decode (a :: b :: rest)
  | c :: rest => Text.Utf8.encode (String.singleton c) ++ decode rest
  | [] => []

end MachiningViewer.Http.Percent
