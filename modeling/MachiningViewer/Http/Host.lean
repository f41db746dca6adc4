import MachiningViewer.Http.Domain.Name
import MachiningViewer.Http.Percent
import MachiningViewer.Number.Binary64

/-!
# Hosts

The host of a URL, in the one form in which it is written: names in small letters, addresses of
version 4 as four decimal numbers, addresses of version 6 with their longest run of zeros left out.
-/

namespace MachiningViewer.Http.Host

/-! ### Addresses of version 4 -/

/-- The value of digits in a base, if they are all digits of it. -/
def digits? (base : Nat) (cs : List Char) : Option Nat :=
  cs.foldlM (fun n c => do
    let d ← Text.hexValue? c
    guard (d < base)
    pure (base * n + d)) 0

/-- A number of an address, in base 16 after "0x", in base 8 after another "0", else in base 10. -/
def number? (cs : List Char) : Option Nat :=
  match cs with
  | [] => none
  | '0' :: 'x' :: rest => digits? 16 rest
  | '0' :: 'X' :: rest => digits? 16 rest
  | '0' :: d :: rest => digits? 8 (d :: rest)
  | cs => digits? 10 cs

/-- The parts between dots, without an empty last one. -/
def parts (cs : List Char) : List (List Char) :=
  let ps := cs.splitOn '.'
  match ps.reverse with
  | [] :: (p :: rest) => (p :: rest).reverse
  | _ => ps

/-- Does a name look like an address, because its last part is a number? -/
def endsInNumber (cs : List Char) : Bool :=
  match (parts cs).getLast? with
  | none => false
  | some p => (!p.isEmpty && p.all Text.isAsciiDigit) || (number? p).isSome

/-- An address of version 4 as it is written. -/
def dotted (address : Nat) : String :=
  ".".intercalate ([24, 16, 8, 0].map fun s => toString (address / twoTo s % 0x100))

/-- The address of one to four parts. The last part fills all bytes that are left. -/
def version4? (cs : List Char) : Option String := do
  let ns ← (parts cs).mapM number?
  guard (ns.length ≤ 4)
  let last ← ns.getLast?
  let front := ns.dropLast
  guard (front.all (· < 0x100))
  guard (last < twoTo (8 * (5 - ns.length)))
  let placed := (front.zip [24, 16, 8]).map fun (n, s) => n * twoTo s
  pure (dotted (placed.foldl (· + ·) last))

/-! ### Addresses of version 6 -/

/-- A piece of an address: one to four hexadecimal digits. -/
def piece? (cs : List Char) : Option Nat := do
  guard (0 < cs.length && cs.length ≤ 4)
  digits? 16 cs

/-- A decimal number of one byte without needless zeros. -/
def byte? (cs : List Char) : Option Nat := do
  guard (0 < cs.length && cs.length ≤ 3 && cs.all Text.isAsciiDigit)
  guard (cs.length == 1 || cs.head? != some '0')
  let n ← digits? 10 cs
  guard (n < 0x100)
  pure n

/-- The pieces of a list of parts. The very last may be an address of version 4, which makes two. -/
def pieces? (mayEndDotted : Bool) : List (List Char) → Option (List Nat)
  | [] => some []
  | [p] =>
    if mayEndDotted && p.contains '.' then
      match (p.splitOn '.').mapM byte? with
      | some [a, b, c, d] => some [0x100 * a + b, 0x100 * c + d]
      | _ => none
    else (piece? p).map fun n => [n]
  | p :: q :: rest => do
    let n ← piece? p
    let ns ← pieces? mayEndDotted (q :: rest)
    pure (n :: ns)

/-- Cuts a text at the first two colons in a row. -/
def cutAtGap : List Char → List Char × Option (List Char)
  | [] => ([], none)
  | ':' :: ':' :: rest => ([], some rest)
  | c :: rest =>
    let (front, back) := cutAtGap rest
    (c :: front, back)

/-- The parts between colons. -/
def colonParts (cs : List Char) : List (List Char) :=
  if cs.isEmpty then [] else cs.splitOn ':'

/-- The eight pieces of an address of version 6. -/
def version6? (cs : List Char) : Option (List Nat) :=
  match cutAtGap cs with
  | (front, none) => do
    let ps ← pieces? true (colonParts front)
    guard (ps.length = 8)
    pure ps
  | (front, some back) => do
    let ps ← pieces? false (colonParts front)
    let qs ← pieces? true (colonParts back)
    guard (ps.length + qs.length < 8)
    pure (ps ++ List.replicate (8 - ps.length - qs.length) 0 ++ qs)

/-- How many zeros a list begins with. -/
def zeros (ps : List Nat) : Nat :=
  (ps.takeWhile (· == 0)).length

/-- The place and length of the first longest run of zeros. -/
def longestGap : Nat → List Nat → Nat × Nat
  | _, [] => (0, 0)
  | at_, p :: ps =>
    let later := longestGap (at_ + 1) ps
    if later.2 ≤ zeros (p :: ps) then (at_, zeros (p :: ps)) else later

/-- A piece as it is written. -/
def hex (n : Nat) : String :=
  String.ofList (Nat.toDigits 16 n)

/-- An address of version 6 as it is written. -/
def bracketed (ps : List Nat) : String :=
  let (start, length) := longestGap 0 ps
  let colons (ns : List Nat) : String := ":".intercalate (ns.map hex)
  let inside :=
    if length < 2 then colons ps
    else colons (ps.take start) ++ "::" ++ colons (ps.drop (start + length))
  "[" ++ inside ++ "]"

/-! ### All hosts -/

/-- A character that no host holds. -/
def isForbidden (c : Char) : Bool :=
  "\x00\t\n\r #/:<>?@[\\]^|".toList.contains c

/-- The host of a URL whose scheme is special. -/
def ofSpecial? (cs : List Char) : Option String :=
  match cs with
  | '[' :: rest =>
    match rest.reverse with
    | ']' :: inside => (version6? inside.reverse).map bracketed
    | _ => none
  | cs => do
    let name ← Domain.ascii? (Text.Utf8.decodeLossy (Percent.decode cs))
    guard (!name.isEmpty)
    if endsInNumber name then version4? name else pure (String.ofList name)

/-- The host of any other URL, which may be empty. -/
def ofOther? (cs : List Char) : Option String :=
  match cs with
  | '[' :: _ => ofSpecial? cs
  | cs =>
    if cs.any isForbidden then none
    else some (String.ofList (Percent.encode Percent.controls cs))

end MachiningViewer.Http.Host
