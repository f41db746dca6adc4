import MachiningViewer.Proofs.Toolpath.Comments
import MachiningViewer.Proofs.Toolpath.Words
import Mathlib

/-!
# Letter case

Nothing in a toolpath text depends on the case of its ASCII letters. Every class of characters that
the reader asks about holds all letters or none of them (`Text.apply_toUpper`), so each step of the
reading goes on in the same way when all letters are made capitals first, and what it leaves over is
the same text in capitals. Of the letters themselves nothing is kept but the addresses of words, and
those are capitals anyway (`Word.scan_upper`).

A text thus says what it says in capitals (`Toolpath.commands_upper`), and so do all texts with the
same capitals.
-/

namespace MachiningViewer

open Text

/-! ### Characters -/

namespace Text

theorem isAsciiLetter_eq_isAlpha (c : Char) : isAsciiLetter c = c.isAlpha := by
  unfold isAsciiLetter Char.isAlpha Char.isUpper Char.isLower
  rw [Bool.or_comm, Bool.decide_and]
  rfl

/-- **What is the same for all letters does not see the case of letters.** -/
theorem apply_toUpper {α : Type} {f : Char → α} {a : α}
    (hf : ∀ c, isAsciiLetter c = true → f c = a) (c : Char) : f c.toUpper = f c := by
  cases hc : isAsciiLetter c with
  | true =>
    have hupper : isAsciiLetter c.toUpper = true := by
      rw [isAsciiLetter_eq_isAlpha, Char.isAlpha_toUpper_eq_isAlpha, ← isAsciiLetter_eq_isAlpha, hc]
    rw [hf c hc, hf _ hupper]
  | false =>
    have hlower : ¬ c.isLower = true := by
      rw [isAsciiLetter_eq_isAlpha, Char.isAlpha, Bool.or_eq_false_iff] at hc
      exact Bool.eq_false_iff.1 hc.2
    rw [Char.toUpper_eq_of_not_isLower hlower]

/-- A character that is no letter is no capital of another one. -/
theorem toUpper_eq_iff {d : Char} (hd : isAsciiLetter d = false) (c : Char) :
    c.toUpper = d ↔ c = d := by
  have hnot : ∀ e, isAsciiLetter e = true → (e = d) = False := by
    intro e he
    rw [eq_iff_iff, iff_false]
    rintro rfl
    rw [he] at hd
    exact Bool.noConfusion hd
  rw [apply_toUpper hnot c]

theorem bne_toUpper {d : Char} (hd : isAsciiLetter d = false) (c : Char) :
    (c.toUpper != d) = (c != d) := by
  rw [Bool.eq_iff_iff, bne_iff_ne, bne_iff_ne, Ne, Ne, toUpper_eq_iff hd c]

theorem isBlank_toUpper (c : Char) : isBlank c.toUpper = isBlank c := by
  refine apply_toUpper (a := false) (fun d hd => ?_) c
  have haddress : Word.isAddress d := by simp [Word.isAddress, hd]
  exact Bool.eq_false_iff.2 fun hblank => Word.not_isAddress_of_isBlank hblank haddress

theorem isDecimalDigit_toUpper (c : Char) : isDecimalDigit c.toUpper = isDecimalDigit c := by
  refine apply_toUpper (a := false) (fun d hd => ?_) c
  have haddress : Word.isAddress d := by simp [Word.isAddress, hd]
  exact Bool.eq_false_iff.2 fun hdigit => Word.not_isAddress_of_isDecimalDigit hdigit haddress

theorem isAsciiLetter_toUpper (c : Char) : isAsciiLetter c.toUpper = isAsciiLetter c :=
  apply_toUpper (fun _ hd => hd) c

theorem isAddress_toUpper (c : Char) : Word.isAddress c.toUpper = Word.isAddress c :=
  apply_toUpper (a := true) (fun d hd => by simp [Word.isAddress, hd]) c

/-! ### Parts of a text -/

theorem upper_cons (c : Char) (cs : List Char) : upper (c :: cs) = c.toUpper :: upper cs :=
  rfl

theorem head?_upper (cs : List Char) : (upper cs).head? = cs.head?.map Char.toUpper :=
  List.head?_map

theorem takeWhile_upper {p : Char → Bool} (hp : ∀ c, p c.toUpper = p c) (cs : List Char) :
    (upper cs).takeWhile p = upper (cs.takeWhile p) := by
  rw [upper, List.takeWhile_map, show p ∘ Char.toUpper = p from funext hp, upper]

theorem dropWhile_upper {p : Char → Bool} (hp : ∀ c, p c.toUpper = p c) (cs : List Char) :
    (upper cs).dropWhile p = upper (cs.dropWhile p) := by
  rw [upper, List.dropWhile_map, show p ∘ Char.toUpper = p from funext hp, upper]

theorem trimStart_upper (cs : List Char) : trimStart (upper cs) = upper (trimStart cs) :=
  dropWhile_upper isBlank_toUpper cs

theorem trim_upper (cs : List Char) : trim (upper cs) = upper (trim cs) := by
  have hreverse (ds : List Char) : (upper ds).reverse = upper ds.reverse := by
    rw [upper, upper, List.map_reverse]
  unfold trim trimEnd dropEndWhile
  rw [trimStart_upper, hreverse, dropWhile_upper isBlank_toUpper, hreverse]

theorem lines_upper (cs : List Char) : lines (upper cs) = (lines cs).map upper := by
  induction cs with
  | nil => rfl
  | cons c cs ih =>
    have hfeed : c.toUpper = '\n' ↔ c = '\n' := toUpper_eq_iff (by decide) c
    rw [upper_cons, lines_cons, lines_cons, ih]
    unfold consLine
    by_cases hc : c = '\n'
    · rw [if_pos (hfeed.2 hc), if_pos hc]
      rfl
    · rw [if_neg (mt hfeed.1 hc), if_neg hc]
      cases lines cs <;> rfl

/-- What follows a word is found in any case. -/
theorem afterWord?_upper (word cs : List Char) :
    afterWord? word (upper cs) = (afterWord? word cs).map upper := by
  induction word generalizing cs with
  | nil => rfl
  | cons w ws ih =>
    cases cs with
    | nil => rfl
    | cons c cs =>
      rw [upper_cons, afterWord?, afterWord?, Char.toUpper_toUpper_eq_toUpper]
      split
      · exact ih cs
      · rfl

end Text

/-! ### Words -/

namespace Numeral

/-- There are no letters among digits. -/
theorem takeWhile_isDecimalDigit_upper (cs : List Char) :
    (upper cs).takeWhile isDecimalDigit = cs.takeWhile isDecimalDigit := by
  have hself : ∀ c ∈ cs.takeWhile isDecimalDigit, c.toUpper = id c := by
    intro c hc
    have hletter : isAsciiLetter c = false := by
      refine Bool.eq_false_iff.2 fun hletter => ?_
      refine Word.not_isAddress_of_isDecimalDigit (List.mem_takeWhile_imp hc) ?_
      simp [Word.isAddress, hletter]
    exact (toUpper_eq_iff hletter c).2 rfl
  rw [takeWhile_upper isDecimalDigit_toUpper, upper, List.map_congr_left hself, List.map_id]

theorem unsigned?_upper (negative : Bool) (cs : List Char) :
    unsigned? negative (upper cs) =
      (unsigned? negative cs).map fun (n, rest) => (n, upper rest) := by
  unfold unsigned?
  simp only [takeWhile_isDecimalDigit_upper, dropWhile_upper isDecimalDigit_toUpper]
  cases cs.dropWhile isDecimalDigit with
  | nil => cases (cs.takeWhile isDecimalDigit).isEmpty <;> rfl
  | cons c r =>
    have hpoint : c.toUpper = '.' ↔ c = '.' := toUpper_eq_iff (by decide) c
    rw [upper_cons]
    -- The digits are the same, so it matters only whether a decimal point follows them.
    by_cases hc : c = '.'
    · rw [hpoint.2 hc, hc]
      simp only [takeWhile_isDecimalDigit_upper, dropWhile_upper isDecimalDigit_toUpper]
      split <;> rfl
    · have hc' : c.toUpper ≠ '.' := mt hpoint.1 hc
      cases (cs.takeWhile isDecimalDigit).isEmpty <;> simp [hc, hc', upper_cons]

theorem read?_upper (cs : List Char) :
    read? (upper cs) = (read? cs).map fun (n, rest) => (n, upper rest) := by
  cases cs with
  | nil => exact unsigned?_upper false []
  | cons c cs =>
    have hplus : c.toUpper = '+' ↔ c = '+' := toUpper_eq_iff (by decide) c
    have hminus : c.toUpper = '-' ↔ c = '-' := toUpper_eq_iff (by decide) c
    by_cases hp : c = '+'
    · rw [upper_cons, hplus.2 hp, hp]
      exact unsigned?_upper false cs
    by_cases hm : c = '-'
    · rw [upper_cons, hminus.2 hm, hm]
      exact unsigned?_upper true cs
    rw [Word.read?_of_ne hp hm, upper_cons,
      Word.read?_of_ne (mt hplus.1 hp) (mt hminus.1 hm)]
    exact unsigned?_upper false (c :: cs)

end Numeral

namespace Word

theorem numeralAfter?_upper (cs : List Char) :
    numeralAfter? (upper cs) = (numeralAfter? cs).map fun (n, rest) => (n, upper rest) := by
  rw [numeralAfter?, trimStart_upper, Numeral.read?_upper, numeralAfter?]

/-- **The words of a text do not depend on its case.** -/
theorem scan_upper (cs : List Char) : scan (upper cs) = scan cs := by
  induction cs with
  | nil => rfl
  | cons c cs ih =>
    by_cases hc : isAddress c = true
    · -- The numeral behind an address is read alike, whatever the case of the letters after it.
      have hword : (numeralAfter? (upper cs)).bind (fun (n, _) => ofNumeral? c.toUpper n) =
          (numeralAfter? cs).bind fun (n, _) => ofNumeral? c n := by
        rw [numeralAfter?_upper, Option.bind_map]
        refine Option.bind_congr fun found _ => ?_
        simp only [Function.comp_apply, ofNumeral?, Char.toUpper_toUpper_eq_toUpper]
      rw [upper_cons, scan_cons_of_isAddress ((isAddress_toUpper c).trans hc), hword, ih,
        scan_cons_of_isAddress hc]
    · have hupper : ¬ isAddress c.toUpper = true := by rwa [isAddress_toUpper]
      rw [upper_cons, scan_cons_of_not_isAddress hupper, scan_cons_of_not_isAddress hc, ih]

end Word

/-! ### Lines -/

namespace Block

theorem blankParens_upper (inside : Bool) (cs : List Char) :
    blankParens inside (upper cs) = upper (blankParens inside cs) := by
  induction cs generalizing inside with
  | nil => rfl
  | cons c cs ih =>
    have hopen : c.toUpper = '(' ↔ c = '(' := toUpper_eq_iff (by decide) c
    have hclose : (c.toUpper != ')') = (c != ')') := bne_toUpper (by decide) c
    rw [upper_cons, blankParens, blankParens, ih, ih, ih, hclose]
    -- No letter is a parenthesis, so comments open and close at the same characters.
    cases inside with
    | true => rfl
    | false =>
      by_cases hc : c = '('
      · rw [if_neg Bool.false_ne_true, if_neg Bool.false_ne_true, if_pos (hopen.2 hc), if_pos hc]
        rfl
      · rw [if_neg Bool.false_ne_true, if_neg Bool.false_ne_true, if_neg (mt hopen.1 hc),
          if_neg hc]
        rfl

theorem stripComments_upper (cs : List Char) :
    stripComments (upper cs) = upper (stripComments cs) := by
  have hsemicolon (c : Char) : (c.toUpper != ';') = (c != ';') := bne_toUpper (by decide) c
  rw [stripComments, takeWhile_upper hsemicolon, blankParens_upper, stripComments]

theorem isSkipped_upper (line : List Char) : IsSkipped (upper line) ↔ IsSkipped line := by
  have hsemicolon (c : Char) : c.toUpper = ';' ↔ c = ';' := toUpper_eq_iff (by decide) c
  have hparen (c : Char) : c.toUpper = '(' ↔ c = '(' := toUpper_eq_iff (by decide) c
  rw [IsSkipped, IsSkipped, trimStart_upper, head?_upper]
  cases (trimStart line).head? with
  | none => simp
  | some c => simp [hsemicolon, hparen]

theorem body?_upper (line : List Char) : body? (upper line) = (body? line).map upper := by
  by_cases hline : IsSkipped line
  · rw [body?_eq_none_iff.2 hline, body?_eq_none_iff.2 ((isSkipped_upper line).2 hline)]
    rfl
  · rw [body?_of_not_isSkipped hline, body?_of_not_isSkipped (mt (isSkipped_upper line).1 hline),
      stripComments_upper, trim_upper]
    rfl

theorem endsBefore_upper (w : MotionWord) (rest : List Char) :
    w.endsBefore (upper rest) = w.endsBefore rest := by
  cases rest with
  | nil => rfl
  | cons c rest =>
    rw [upper_cons, MotionWord.endsBefore, isBlank_toUpper, isAsciiLetter_toUpper,
      MotionWord.endsBefore]

theorem splitMotion?_upper (body : List Char) :
    splitMotion? (upper body) =
      (splitMotion? body).map fun (kind, rest) => (kind, upper rest) := by
  -- The words are tried in the same order, and each fits both bodies or neither.
  have hfits : (motionWords.findSome? fun w => (afterWord? w.spelling (upper body)).map (w, ·)) =
      (motionWords.findSome? fun w => (afterWord? w.spelling body).map (w, ·)).map
        fun (w, rest) => (w, upper rest) := by
    rw [List.map_findSome?]
    refine congrArg (motionWords.findSome? ·) (funext fun w => ?_)
    rw [Function.comp_apply, afterWord?_upper, Option.map_map, Option.map_map]
    rfl
  rw [splitMotion?, hfits, splitMotion?]
  cases motionWords.findSome? fun w => (afterWord? w.spelling body).map (w, ·) with
  | none => rfl
  | some found =>
    obtain ⟨w, rest⟩ := found
    simp only [Option.map_some, endsBefore_upper]
    split <;> rfl

theorem motion?_upper (body : List Char) : motion? (upper body) = motion? body := by
  rw [motion?, splitMotion?_upper, Option.map_map, motion?]
  refine congrArg (Option.map · _) (funext fun found => ?_)
  exact congrArg (ofWords found.1) (Word.scan_upper found.2)

theorem directives_upper (body : List Char) : directives (upper body) = directives body := by
  rw [directives, Word.scan_upper, directives]

end Block

/-! ### The whole text -/

namespace Toolpath

/-- What a text says: its unit directives and its motion commands. -/
def commands (text : List Char) : List LengthUnit × List Move :=
  ((bodies text).flatMap Block.directives, (bodies text).filterMap Block.motion?)

theorem interpret_eq (text : String) :
    interpret text = ofCommands (commands text.toList).1 (commands text.toList).2 :=
  rfl

/-- **A text says what it says in capitals.** -/
theorem commands_upper (text : List Char) : commands (upper text) = commands text := by
  have hbodies : bodies (upper text) = (bodies text).map upper := by
    rw [bodies, lines_upper, List.filterMap_map, bodies, List.map_filterMap]
    exact congrArg (List.filterMap · _) (funext Block.body?_upper)
  have hdirectives : Block.directives ∘ upper = Block.directives :=
    funext Block.directives_upper
  have hmotion : Block.motion? ∘ upper = Block.motion? := funext Block.motion?_upper
  rw [commands, hbodies, List.flatMap_map, List.filterMap_map, hmotion, commands]
  exact congrArg (·, _) (congrArg (List.flatMap · _) hdirectives)

end Toolpath

end MachiningViewer
