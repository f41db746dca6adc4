/-!
# White space and lines

The two notions of layout that every reader of the library shares: which characters are blank, and
where a line of text ends. `isBlank` is Unicode's White_Space property; `trim` removes it at both
ends and nowhere else; `lines` cuts a text at its line feeds.
-/

namespace MachiningViewer.Text

/-- The characters with Unicode's White_Space property, which is wider than the ASCII blanks that
`Char.isWhitespace` knows. -/
def isBlank (c : Char) : Bool :=
  let n := c.toNat
  (0x09 ≤ n && n ≤ 0x0D) || n == 0x20 || n == 0x85 || n == 0xA0 || n == 0x1680 ||
    (0x2000 ≤ n && n ≤ 0x200A) || n == 0x2028 || n == 0x2029 || n == 0x202F || n == 0x205F ||
    n == 0x3000

/-- A letter of the ASCII alphabet, in either case. -/
def isAsciiLetter (c : Char) : Bool :=
  ('a' ≤ c && c ≤ 'z') || ('A' ≤ c && c ≤ 'Z')

/-- A decimal digit of ASCII. -/
def isAsciiDigit (c : Char) : Bool :=
  '0' ≤ c && c ≤ '9'

/-! ### Trimming -/

/-- Drops the blanks at the front. -/
def trimStart (cs : List Char) : List Char :=
  cs.dropWhile isBlank

/-- Drops the longest ending all of whose characters satisfy `p`. -/
def dropEndWhile (p : Char → Bool) (cs : List Char) : List Char :=
  (cs.reverse.dropWhile p).reverse

/-- Drops the blanks at the end. -/
def trimEnd (cs : List Char) : List Char :=
  dropEndWhile isBlank cs

/-- Drops the blanks at both ends. -/
def trim (cs : List Char) : List Char :=
  trimEnd (trimStart cs)

/-! ### Lines -/

/-- Puts a character in front of a text that is already cut into lines. -/
def consLine (c : Char) (ls : List (List Char)) : List (List Char) :=
  if c = '\n' then [] :: ls
  else
    match ls with
    | [] => [[c]]
    | l :: ls => (c :: l) :: ls

/-- Cuts a text at every line feed. There is always at least one line, and a text that ends with a
line feed has an empty last one. -/
def lines (cs : List Char) : List (List Char) :=
  cs.foldr consLine [[]]

theorem lines_cons (c : Char) (cs : List Char) : lines (c :: cs) = consLine c (lines cs) :=
  rfl

theorem consLine_ne_nil (c : Char) (ls : List (List Char)) : consLine c ls ≠ [] := by
  unfold consLine
  split
  · simp
  · split <;> simp

theorem lines_ne_nil (cs : List Char) : lines cs ≠ [] := by
  cases cs with
  | nil => simp [lines]
  | cons c cs => rw [lines_cons]; exact consLine_ne_nil c _

/-- Only the first line of what follows is touched by a character put in front. -/
theorem consLine_append (c : Char) {ls : List (List Char)} (h : ls ≠ []) (ms : List (List Char)) :
    consLine c (ls ++ ms) = consLine c ls ++ ms := by
  cases ls with
  | nil => exact absurd rfl h
  | cons l ls => by_cases hc : c = '\n' <;> simp [consLine, hc]

/-- **A line feed is a clean cut.** The lines of two texts joined by a line feed are the lines of
the first and then those of the second. -/
theorem lines_append_newline (as bs : List Char) :
    lines (as ++ '\n' :: bs) = lines as ++ lines bs := by
  induction as with
  | nil => simp [lines, consLine]
  | cons c cs ih =>
    rw [List.cons_append, lines_cons, ih, lines_cons, consLine_append c (lines_ne_nil cs)]

/-! ### Comparing letters without case -/

/-- The text with each ASCII letter in upper case and every other character as it is. -/
def upper (cs : List Char) : List Char :=
  cs.map Char.toUpper

/-- Is `word` the beginning of `cs` when the case of ASCII letters does not count? Answers with what
follows it. The letters of `word` are capitals. -/
def afterWord? (word : List Char) (cs : List Char) : Option (List Char) :=
  match word, cs with
  | [], cs => some cs
  | _ :: _, [] => none
  | w :: ws, c :: cs => if c.toUpper = w then afterWord? ws cs else none

end MachiningViewer.Text
