import MachiningViewer.Log.Pattern
import MachiningViewer.Log.Record
import MachiningViewer.Text.Alphanumeric
import MachiningViewer.Text.Blank

/-!
# Log filters

Which records are shown. A filter is a list of directives. Each gives a least level to records: to
all of them or to those whose target starts with a given text, and of these possibly only to those
that have a given field. Of the directives for a record the sharpest one decides: the one with the
longest text, then one that asks for a field, and of directives for the same records the last one.
-/

namespace MachiningViewer.Log

/-- The least level that is shown. At `off` nothing is. -/
inductive Threshold where
  | off
  | from (level : Level)
  deriving DecidableEq, Repr

/-- Is a record of this level shown? -/
def Threshold.admits : Threshold → Level → Bool
  | .off, _ => false
  | .from least, level => least.rank ≤ level.rank

/-- A rule for some records. -/
structure Directive where
  /-- The start of the targets that it is for. -/
  target : String
  /-- The field that a record must have. -/
  field : Option String
  threshold : Threshold
  deriving DecidableEq, Repr

namespace Directive

/-- Is the directive for a record? -/
def covers (d : Directive) (r : Record) : Bool :=
  d.target.toList.isPrefixOf r.target.toList &&
    match d.field with
    | none => true
    | some name => r.hasField name

/-- Does a directive decide rather than another one that covers the same record? -/
def isSharper (d e : Directive) : Bool :=
  if d.target.length = e.target.length then
    match d.field, e.field with
    | some _, none => true
    | some f, some g => g < f
    | none, _ => false
  else e.target.length < d.target.length

/-- The better one of two directives for the same record. -/
def preferred (best : Option Directive) (d : Directive) : Option Directive :=
  match best with
  | some b => if b.isSharper d then best else some d
  | none => some d

end Directive

abbrev Filter := List Directive

namespace Filter

/-- A filter with one level for all records. -/
def ofLevel (level : Level) : Filter := [⟨"", none, .from level⟩]

/-- The directive that decides about a record. -/
def decisive? (f : Filter) (r : Record) : Option Directive :=
  (f.filter (·.covers r)).foldl Directive.preferred none

/-- Is a record shown? -/
def admits (f : Filter) (r : Record) : Bool :=
  match f.decisive? r with
  | some d => d.threshold.admits r.level
  | none => false

end Filter

/-! ### Thresholds in words -/

namespace Threshold

/-- The thresholds by their numbers. -/
def byNumber : List Threshold :=
  [.off, .from .error, .from .warn, .from .info, .from .debug, .from .trace]

/-- The number that a text of digits is, which may have a plus sign. -/
def number? (cs : List Char) : Option Nat :=
  let digits := match cs with
    | '+' :: digits => digits
    | digits => digits
  if digits.isEmpty || !digits.all Text.isAsciiDigit then none
  else some (digits.foldl (fun n c => 10 * n + (c.toNat - '0'.toNat)) 0)

/-- The threshold that a word names, in any case, or as a number. -/
def read? (word : List Char) : Option Threshold :=
  match (number? word).bind (byNumber[·]?) with
  | some t => some t
  | none =>
    match String.ofList (word.map Char.toLower) with
    | "off" => some .off
    | "error" => some (.from .error)
    | "warn" => some (.from .warn)
    | "info" => some (.from .info)
    | "debug" => some (.from .debug)
    | "trace" => some (.from .trace)
    | _ => none

/-- The threshold behind an equals sign. None at all stands for the lowest one. -/
def readGiven? (word : List Char) : Option Threshold :=
  if word.isEmpty then some (.from .trace) else read? word

end Threshold

/-! ### Directives in words

A directive is written `target[span{field}]=level`, where every part may be left out. Spans
are stretches of time, of which the library knows none: a directive for one has to be well formed,
but says nothing.

The parts are found by their places in the text without the blanks around it, and are then cut from
the text as it stands. So blanks in front displace every part, and blanks behind belong to the last
one. -/

/-- May a directive start with this character? -/
def isDirectiveStart (c : Char) : Bool :=
  Text.isAlphanumeric c || "-:_".toList.contains c

namespace Directive

section

variable (text : List Char)

/-- The part of a text between two places. -/
def part (start stop : Nat) : List Char :=
  (text.take stop).drop start

/-- A threshold for all records, or a target that is shown whatever the level. -/
def ofWord (word : List Char) : Directive :=
  match Threshold.read? word with
  | some t => ⟨"", none, t⟩
  | none => ⟨String.ofList word, none, .from .trace⟩

/-- The threshold behind the bracket that closes at `place`, where `rest` is what follows it. -/
def thresholdBehind? (place : Nat) (rest : List Char) : Option Threshold :=
  match rest with
  | [] => some (.from .trace)
  | '=' :: _ => Threshold.readGiven? (text.drop (place + 2))
  | _ => none

/-- May this text stand for a field? Behind a first equals sign it has a wanted value. -/
def isField (text : List Char) : Bool :=
  !text.isEmpty &&
    match text.splitOn '=' with
    | _ :: value :: _ => Pattern.isWanted value
    | _ => true

/-- The directive for records with a field, if it is for no span. A field with a wanted value is a
matter of spans too. -/
def ofField (target : String) (inSpan : Bool) (field : List Char) (t : Threshold) :
    Option Directive :=
  if inSpan || field.contains '=' then none
  else some ⟨target, some (String.ofList field), t⟩

/-- Reads what follows the bracket that opens in front of `start`, where `rest` is what follows it.
A directive for a span is well formed but none. -/
def readBracket? (target : String) (start : Nat) (rest : List Char) : Option (Option Directive) :=
  let isName (c : Char) : Bool := c ≠ ']' && c ≠ '\x7b'
  let stop := start + (rest.takeWhile isName).length
  match rest.dropWhile isName with
  | [] => none
  | ']' :: rest => (thresholdBehind? text stop rest).map fun _ => none
  | _ :: rest =>
    let isInside (c : Char) : Bool := c ≠ '\x7d'
    let fieldStop := stop + 1 + (rest.takeWhile isInside).length
    let field := part text (stop + 1) fieldStop
    match rest.dropWhile isInside with
    | _ :: ']' :: rest =>
      if !isField field then none
      else
        (thresholdBehind? text (fieldStop + 1) rest).map
          (ofField target (!(part text start stop).isEmpty) field)
    | _ => none

/-- Reads a directive. -/
def read? : Option (Option Directive) :=
  let isTarget (c : Char) : Bool := c ≠ '=' && c ≠ '['
  let trimmed := Text.trim text
  let stop := (trimmed.takeWhile isTarget).length
  let target := String.ofList (part text 0 stop)
  match trimmed with
  | [] => none
  | '[' :: rest => readBracket? text "" 1 rest
  | c :: _ =>
    if !isDirectiveStart c then none
    else
      match trimmed.dropWhile isTarget with
      | [] => some (some (ofWord text))
      | '[' :: rest => readBracket? text target (stop + 1) rest
      | _ => (Threshold.readGiven? (text.drop (stop + 1))).map fun t => some ⟨target, none, t⟩

end

end Directive

/-- Reads a filter: directives with commas between them. A filter without any shows errors only. -/
def Filter.read? (text : String) : Option Filter := do
  let directives ← ((text.toList.splitOn ',').filter (!·.isEmpty)).mapM Directive.read?
  pure (if directives.isEmpty then ofLevel .error else directives.filterMap id)

end MachiningViewer.Log
