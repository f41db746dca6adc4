import MachiningViewer.Toolpath.Basic
import MachiningViewer.Toolpath.Word

/-!
# Blocks

A block is one line of a toolpath text, read by itself. A line is skipped when it is blank or opens
with a comment; of any other line the *body* is what is left when its comments are taken out. The
body may hold unit directives anywhere and a motion command at its front.
-/

namespace MachiningViewer

open Text

namespace Block

/-! ### Comments -/

/-- Puts one blank in the place of each comment in parentheses. A comment ends at the first closing
parenthesis, or with the line if there is none; `inside` tells whether the text starts inside one.
-/
def blankParens (inside : Bool) : List Char → List Char
  | [] => []
  | c :: cs =>
    if inside then blankParens (c != ')') cs
    else if c = '(' then ' ' :: blankParens true cs
    else c :: blankParens false cs

/-- A line without its comments: what follows the first semicolon, and the parentheses before it. -/
def stripComments (line : List Char) : List Char :=
  blankParens false (line.takeWhile (· != ';'))

/-- The body of a line, or nothing when the line is skipped. -/
def body? (line : List Char) : Option (List Char) :=
  match trim line with
  | [] => none
  | ';' :: _ => none
  | '(' :: _ => none
  | cs => some (trim (stripComments cs))

/-! ### Motion commands -/

/-- The motion words, those that are the beginning of others behind them. A word of letters must not
run on into a letter. -/
structure MotionWord where
  spelling : List Char
  kind : MoveKind
  deriving Repr

/-- The motion words in the order in which they are tried. -/
def motionWords : List MotionWord :=
  [⟨"RAPID".toList, .rapid⟩, ⟨"FEED".toList, .feed⟩, ⟨"G00".toList, .rapid⟩, ⟨"G01".toList, .feed⟩,
    ⟨"G0".toList, .rapid⟩, ⟨"G1".toList, .feed⟩]

/-- Is the word one of letters only? -/
def MotionWord.isName (w : MotionWord) : Bool :=
  w.spelling.all isAsciiLetter

/-- May `rest` follow the word directly? Blanks may, and nothing at all; an address letter may
follow a word that ends with a digit. -/
def MotionWord.endsBefore (w : MotionWord) : List Char → Bool
  | [] => true
  | c :: _ => isBlank c || (isAsciiLetter c && !w.isName)

/-- The kind of motion that a body commands and the text behind the motion word. Only the first word
that fits is looked at: `G000` is no motion although `G0` begins it. -/
def splitMotion? (body : List Char) : Option (MoveKind × List Char) :=
  match motionWords.findSome? fun w => (afterWord? w.spelling body).map (w, ·) with
  | some (w, rest) => if w.endsBefore rest then some (w.kind, rest) else none
  | none => none

/-- The first value that the words give to an address. -/
def firstValue? (address : Char) (words : List Word) : Option Float :=
  (words.find? fun w => w.address == address).map (·.value)

/-- The first feed rate among the words. A negative one does not count. -/
def firstFeed? (words : List Word) : Option Float :=
  (words.find? fun w => w.address == 'F' && w.value ≥ 0.0).map (·.value)

/-- A motion command by itself: a move whose feed is the one of its own line. -/
def ofWords (kind : MoveKind) (words : List Word) : Move where
  kind
  x := firstValue? 'X' words
  y := firstValue? 'Y' words
  z := firstValue? 'Z' words
  feed := firstFeed? words

/-- The motion that a body commands, before any feed rate is inherited. -/
def motion? (body : List Char) : Option Move :=
  (splitMotion? body).map fun (kind, rest) => ofWords kind (Word.scan rest)

/-! ### Unit directives -/

/-- The unit that a word asks for. -/
def directive? (w : Word) : Option LengthUnit :=
  if w.address != 'G' then none
  else if w.value == 21.0 then some .millimetre
  else if w.value == 20.0 then some .inch
  else none

/-- The units that a body asks for, in order. -/
def directives (body : List Char) : List LengthUnit :=
  (Word.scan body).filterMap directive?

end Block

end MachiningViewer
