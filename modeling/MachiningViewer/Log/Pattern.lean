import MachiningViewer.Text.Alphanumeric
import MachiningViewer.Text.Blank
import MachiningViewer.Text.Digit

/-!
# Patterns

A filter can ask for a field with a value that keeps to a pattern. Patterns are regular expressions;
what they match is never looked at here, but a text that is none spoils the filter. `isPattern`
reads a text from the left to the right and keeps account of what is open: groups, sets, and whether
there is something in front that may be repeated.
-/

namespace MachiningViewer.Log.Pattern

/-! ### Escapes -/

/-- What an escape stands for. -/
inductive Escape where
  | character (c : Char)
  /-- Any character of a set. -/
  | set
  /-- A place in a text. -/
  | place
  deriving DecidableEq, Repr

/-- The character with a number in so many hexadecimal digits. -/
def hexEscape? (count : Nat) (cs : List Char) : Option Escape := do
  guard (count ≤ cs.length)
  let n ← Text.hexNumber? (cs.take count)
  if h : n.isValidChar then some (.character (Char.ofNatAux n h)) else none

/-- The letters that stand for controls. -/
def controls : List (Char × Char) :=
  [('a', '\x07'), ('f', '\x0c'), ('t', '\t'), ('n', '\n'), ('r', '\r'), ('v', '\x0b')]

/-- The escape behind a backslash, and how many characters it has after the first one. The bounds of
words are no part of patterns. -/
def escape? : List Char → Option (Escape × Nat)
  | [] => none
  | c :: rest =>
    if c == 'x' then (hexEscape? 2 rest).map (·, 2)
    else if c == 'u' then (hexEscape? 4 rest).map (·, 4)
    else if c == 'U' then (hexEscape? 8 rest).map (·, 8)
    else if c == 'p' || c == 'P' then
      if (rest.head?.map Char.toUpper).any "LMNPSZC".toList.contains then some (.set, 1) else none
    else if "dDsSwW".toList.contains c then some (.set, 0)
    else if c == 'A' || c == 'z' then some (.place, 0)
    else
      match controls.lookup c with
      | some d => some (.character d, 0)
      | none =>
        if 0x80 ≤ c.toNat || Text.isAlphanumeric c || c == '<' || c == '>' then none
        else some (.character c, 0)

/-! ### Sets -/

/-- What stands at the front of a set: a single character or, if it is none, a set of them; and how
many characters it has after the first one. -/
def setItem? (c : Char) (rest : List Char) : Option (Option Char × Nat) :=
  if c == '\\' then do
    let (escape, more) ← escape? rest
    match escape with
    | .character d => some (some d, more + 1)
    | .set => some (none, more + 1)
    | .place => none
  else some (some c, 0)

/-- How many characters a range or a single item of a set has after the first one. -/
def setRange? (c : Char) (rest : List Char) : Option Nat := do
  let (first, more) ← setItem? c rest
  match rest.drop more with
  | '-' :: d :: behind =>
    if d == ']' || d == '-' then pure more
    else
      let (last, evenMore) ← setItem? d behind
      guard ((← first) ≤ (← last))
      pure (more + 2 + evenMore)
  | _ => pure more

/-- How many characters at the front of a set stand for themselves or turn it around. -/
def setFront (cs : List Char) : Nat :=
  let turned := if cs.head? == some '^' then 1 else 0
  let hyphens := ((cs.drop turned).takeWhile (· == '-')).length
  let bracket := if hyphens == 0 && (cs.drop turned).head? == some ']' then 1 else 0
  turned + hyphens + bracket

/-! ### Groups -/

/-- The letters of flags. -/
def flagLetters : List Char := "imsUuRx".toList

/-- Are these flags? Each may stand there once, and a hyphen in front of those that are taken
back. -/
def areFlags (cs : List Char) : Bool :=
  cs.all (fun c => flagLetters.contains c || c == '-') && cs.eraseDups == cs &&
    cs.getLast? != some '-'

/-- Is this the name of a group? -/
def isGroupName : List Char → Bool
  | [] => false
  | c :: rest =>
    (c == '_' || (Text.isAlphanumeric c && !Text.isDecimalDigit c)) &&
      rest.all fun d => Text.isAlphanumeric d || "_.[]".toList.contains d

/-- What an opening bracket begins. -/
inductive Group where
  | plain
  | named (name : List Char)
  /-- Flags that hold from here on; there is no group. -/
  | flags
  deriving DecidableEq, Repr

/-- The name up to an angle bracket, and how many characters that are. -/
def groupName? (cs : List Char) : Option (Group × Nat) :=
  let name := cs.takeWhile (· != '>')
  if name.length < cs.length && isGroupName name then some (.named name, name.length + 1) else none

/-- What a bracket begins that is followed by a text, and how many characters belong to that. -/
def group? (cs : List Char) : Option (Group × Nat) :=
  match cs with
  | '?' :: 'P' :: '<' :: rest => (groupName? rest).map fun (g, n) => (g, n + 3)
  | '?' :: '<' :: rest => (groupName? rest).map fun (g, n) => (g, n + 2)
  | '?' :: rest =>
    let flags := rest.takeWhile fun c => c != ':' && c != ')'
    match rest.drop flags.length with
    | ':' :: _ => if areFlags flags then some (.plain, flags.length + 2) else none
    | ')' :: _ => if !flags.isEmpty && areFlags flags then some (.flags, flags.length + 2) else none
    | _ => none
  | _ => some (.plain, 0)

/-! ### Patterns -/

/-- What is open at a place of a pattern. -/
structure Account where
  groups : Nat
  sets : Nat
  /-- Is there something in front that may be repeated? -/
  isItem : Bool
  names : List (List Char)
  deriving DecidableEq, Repr

namespace Account

/-- Nothing is open. -/
def start : Account := ⟨0, 0, false, []⟩

/-- Reads a character inside a set. -/
def insideSet? (a : Account) (c : Char) (rest : List Char) : Option (Account × Nat) :=
  if c == '[' then some ({ a with sets := a.sets + 1 }, setFront rest)
  else if c == ']' then some ({ a with sets := a.sets - 1 }, 0)
  else if (c == '&' || c == '-' || c == '~') && rest.head? == some c then some (a, 1)
  else (setRange? c rest).map (a, ·)

/-- Reads a character outside of sets. -/
def outsideSets? (a : Account) (c : Char) (rest : List Char) : Option (Account × Nat) :=
  match c with
  | '[' => some ({ a with sets := 1, isItem := true }, setFront rest)
  | '(' => do
    let (group, more) ← group? rest
    match group with
    | .plain => pure ({ a with groups := a.groups + 1, isItem := false }, more)
    | .flags => pure ({ a with isItem := false }, more)
    | .named name =>
      guard (!a.names.contains name)
      pure (⟨a.groups + 1, a.sets, false, name :: a.names⟩, more)
  | ')' =>
    if a.groups = 0 then none else some ({ a with groups := a.groups - 1, isItem := true }, 0)
  | '|' => some ({ a with isItem := false }, 0)
  | '\x7b' => none
  | '\\' => (escape? rest).map fun (_, more) => ({ a with isItem := true }, more + 1)
  | _ =>
    if c == '*' || c == '+' || c == '?' then
      if a.isItem then some (a, if rest.head? == some '?' then 1 else 0) else none
    else some ({ a with isItem := true }, 0)

/-- Reads a text to its end, where nothing may be open. -/
def closes (a : Account) : List Char → Bool
  | [] => a.groups == 0 && a.sets == 0
  | c :: rest =>
    match if a.sets = 0 then a.outsideSets? c rest else a.insideSet? c rest with
    | none => false
    | some (b, more) => b.closes (rest.drop more)
termination_by cs => cs.length
decreasing_by simp only [List.length_drop, List.length_cons]; omega

end Account

/-- Is a text a pattern? -/
def isPattern (cs : List Char) : Bool :=
  Account.start.closes cs

/-! ### Wanted values -/

/-- Are these digits with at most one point, and possibly an exponent? -/
def isDecimal (cs : List Char) : Bool :=
  let isDigits (ds : List Char) : Bool := ds.all Text.isAsciiDigit
  let front := cs.takeWhile fun c => c != 'e' && c != 'E'
  let mantissa := match front.splitOn '.' with
    | [whole] => !whole.isEmpty && isDigits whole
    | [whole, part] => !(whole.isEmpty && part.isEmpty) && isDigits whole && isDigits part
    | _ => false
  let exponent := match cs.drop front.length with
    | [] => true
    | _ :: '+' :: ds => !ds.isEmpty && isDigits ds
    | _ :: '-' :: ds => !ds.isEmpty && isDigits ds
    | _ :: ds => !ds.isEmpty && isDigits ds
  mantissa && exponent

/-- Is a text a number or a pattern? Only a number with a plus sign is no pattern too. -/
def isWanted (cs : List Char) : Bool :=
  isPattern cs ||
    match cs with
    | '+' :: rest =>
      isDecimal rest || ["inf", "infinity", "nan"].contains (String.ofList (rest.map Char.toLower))
    | _ => false

end MachiningViewer.Log.Pattern
