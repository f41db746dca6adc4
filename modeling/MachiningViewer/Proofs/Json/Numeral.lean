import MachiningViewer.Json.Value
import Mathlib.Data.List.TakeWhile

/-!
# Numbers in JSON texts

A `Numeral` is a number as it is spelled: a sign, digits without a leading zero, and perhaps a
fraction and an exponent. Every numeral is read to its end, if nothing follows that could be more of
it (`read?_text`), and nothing else is read as a number (`exists_numeral`). An integer that is read
fits into 64 bits (`Numeral.isInteger64`).

Integers are written as numerals (`text_ofInt`), and those that fit into 64 bits are read again as
what they are (`value_ofInt`).
-/

namespace MachiningViewer.Json

open Text

/-- Digits, of which there is at least one. -/
structure Digits where
  chars : List Char
  ne_nil : chars ≠ []
  all_digits : ∀ c ∈ chars, isAsciiDigit c

/-- The exponent of a number, with its letter. -/
structure Exponent where
  letter : Char
  sign : List Char
  digits : Digits
  letter_cases : letter = 'e' ∨ letter = 'E'
  sign_cases : sign = [] ∨ sign = ['+'] ∨ sign = ['-']

/-- What follows the digits in front of the point. -/
structure NumberTail where
  fraction : Option Digits
  exponent : Option Exponent

/-- A number as it is spelled. -/
structure Numeral where
  negative : Bool
  whole : Digits
  tail : NumberTail
  /-- No digit follows a leading zero. -/
  eq_nil_of_zero : ∀ rest, whole.chars = '0' :: rest → rest = []

/-- Can a text that follows a number not be more of it? -/
def EndsNumber (cs : List Char) : Prop :=
  ∀ c ∈ cs.head?, ¬ isAsciiDigit c ∧ c ≠ '.' ∧ c ≠ 'e' ∧ c ≠ 'E'

/-- The number that digits denote. -/
def Digits.value (d : Digits) : Nat :=
  d.chars.foldl (fun n c => 10 * n + (c.toNat - 48)) 0

namespace Exponent

def text (e : Exponent) : List Char :=
  e.letter :: e.sign ++ e.digits.chars

def value (e : Exponent) : Int :=
  if e.sign = ['-'] then -(e.digits.value : Int) else e.digits.value

end Exponent

namespace NumberTail

def text (t : NumberTail) : List Char :=
  (t.fraction.elim [] fun d => '.' :: d.chars) ++ t.exponent.elim [] (·.text)

/-- The number with the given sign and digits and this tail. -/
def value (negative : Bool) (whole : List Char) (t : NumberTail) : Number :=
  match t.fraction, t.exponent with
  | none, none => .ofWhole negative whole
  | fraction, exponent =>
    .ofDigits negative whole (fraction.elim [] (·.chars)) (exponent.elim 0 (·.value))

end NumberTail

namespace Numeral

/-- How the number is spelled. -/
def text (n : Numeral) : List Char :=
  (if n.negative then ['-'] else []) ++ (n.whole.chars ++ n.tail.text)

/-- The number that it denotes. -/
def value (n : Numeral) : Number :=
  n.tail.value n.negative n.whole.chars

end Numeral

/-! ### Runs of digits -/

/-- What does not start with a digit. -/
def NoDigit (cs : List Char) : Prop :=
  ∀ c ∈ cs.head?, ¬ isAsciiDigit c

theorem Digits.span (d : Digits) {rest : List Char} (h : NoDigit rest) :
    (d.chars ++ rest).takeWhile isAsciiDigit = d.chars ∧
      (d.chars ++ rest).dropWhile isAsciiDigit = rest := by
  rw [List.takeWhile_append_of_pos d.all_digits, List.dropWhile_append_of_pos d.all_digits]
  cases rest with
  | nil => simp
  | cons c rest =>
    have hc : ¬ isAsciiDigit c := h c rfl
    simp [hc]

/-- The digits at the front of a text, if there are any. -/
theorem exists_digits {cs : List Char} (h : (cs.takeWhile isAsciiDigit).isEmpty = false) :
    ∃ d : Digits, cs.takeWhile isAsciiDigit = d.chars ∧
      cs = d.chars ++ cs.dropWhile isAsciiDigit := by
  refine ⟨⟨cs.takeWhile isAsciiDigit, by simpa using h, fun c hc => ?_⟩, rfl, ?_⟩
  · exact List.mem_takeWhile_imp hc
  · exact List.takeWhile_append_dropWhile.symm

/-! ### Reading -/

theorem readFraction?_text (d : Digits) {rest : List Char} (h : NoDigit rest) :
    Number.readFraction? (d.chars ++ rest) = some (d.chars, rest) := by
  obtain ⟨htake, hdrop⟩ := d.span h
  simp [Number.readFraction?, htake, hdrop, d.ne_nil]

theorem readExponent?_text (e : Exponent) {rest : List Char} (h : NoDigit rest) :
    Number.readExponent? (e.sign ++ (e.digits.chars ++ rest)) = some (e.value, rest) := by
  obtain ⟨letter, sign, digits, hletter, hsign⟩ := e
  obtain ⟨htake, hdrop⟩ := digits.span h
  rcases hsign with rfl | rfl | rfl
  · -- A sign is no digit, so the first digit is none.
    have hread : Number.readExponent? (digits.chars ++ rest) =
        if digits.chars.isEmpty then none else some ((digits.value : Int), rest) := by
      obtain ⟨c, cs, hcs⟩ := List.exists_cons_of_ne_nil digits.ne_nil
      have hc : isAsciiDigit c := digits.all_digits c (hcs ▸ List.mem_cons_self)
      rw [hcs, List.cons_append] at htake hdrop ⊢
      rw [Number.readExponent?]
      · simp only [htake, hdrop, Digits.value, hcs]
        rfl
      · rintro r ⟨⟩
        exact absurd hc (by decide)
      · rintro r ⟨⟩
        exact absurd hc (by decide)
    simpa [digits.ne_nil, Exponent.value] using hread
  · simp [Number.readExponent?, htake, hdrop, digits.ne_nil, Exponent.value, Digits.value]
  · simp [Number.readExponent?, htake, hdrop, digits.ne_nil, Exponent.value, Digits.value]

theorem EndsNumber.noDigit {cs : List Char} (h : EndsNumber cs) : NoDigit cs :=
  fun c hc => (h c hc).1

theorem noDigit_cons {c : Char} (hc : ¬ isAsciiDigit c) (cs : List Char) : NoDigit (c :: cs) := by
  rintro _ ⟨⟩
  exact hc

theorem Exponent.not_isAsciiDigit_letter (e : Exponent) : ¬ isAsciiDigit e.letter := by
  rcases e.letter_cases with he | he <;> rw [he] <;> decide

namespace NumberTail

variable {rest : List Char}

theorem noDigit_text (t : NumberTail) (h : EndsNumber rest) : NoDigit (t.text ++ rest) := by
  obtain ⟨fraction, exponent⟩ := t
  cases fraction with
  | some d => exact noDigit_cons (by decide) _
  | none =>
    cases exponent with
    | some e => exact noDigit_cons e.not_isAsciiDigit_letter _
    | none => exact h.noDigit

theorem readTail?_text (t : NumberTail) (h : EndsNumber rest) (negative : Bool)
    (whole : List Char) :
    Number.readTail? negative whole (t.text ++ rest) = some (t.value negative whole, rest) := by
  have hends (x : Char) (hx : x = '.' ∨ x = 'e' ∨ x = 'E') (r : List Char) : rest ≠ x :: r := by
    rintro rfl
    obtain ⟨-, hpoint, he, hE⟩ := h x rfl
    rcases hx with hx | hx | hx
    · exact hpoint hx
    · exact he hx
    · exact hE hx
  -- The four shapes of a tail are told apart by characters with which the rest does not start.
  obtain ⟨fraction, exponent⟩ := t
  cases fraction with
  | none =>
    cases exponent with
    | none =>
      show Number.readTail? negative whole rest = _
      rw [Number.readTail?]
      · rfl
      · exact hends '.' (.inl rfl)
      · exact hends 'e' (.inr (.inl rfl))
      · exact hends 'E' (.inr (.inr rfl))
    | some e =>
      have hread := readExponent?_text e h.noDigit
      rcases e with ⟨letter, sign, digits, rfl | rfl, hsign⟩ <;>
        simp_all [text, Exponent.text, Number.readTail?, value]
  | some d =>
    cases exponent with
    | none =>
      show Number.readTail? negative whole ('.' :: (d.chars ++ [] ++ rest)) = _
      rw [List.append_nil, Number.readTail?, readFraction?_text d h.noDigit]
      split
      · cases ‹some _ = none›
      · rename_i heq
        exact absurd (congrArg Prod.snd (Option.some.inj heq)) (hends 'e' (.inr (.inl rfl)) _)
      · rename_i heq
        exact absurd (congrArg Prod.snd (Option.some.inj heq)) (hends 'E' (.inr (.inr rfl)) _)
      · rename_i heq
        cases heq
        rfl
    | some e =>
      have hread := readExponent?_text e h.noDigit
      -- The letter of the exponent ends the fraction.
      have hfraction := readFraction?_text d
        (noDigit_cons e.not_isAsciiDigit_letter (e.sign ++ (e.digits.chars ++ rest)))
      rcases e with ⟨letter, sign, digits, rfl | rfl, hsign⟩ <;>
        simp_all [text, Exponent.text, Number.readTail?, value]

end NumberTail

namespace Numeral

variable {rest : List Char}

theorem readUnsigned?_text (n : Numeral) (h : EndsNumber rest) :
    Number.readUnsigned? n.negative (n.whole.chars ++ (n.tail.text ++ rest)) =
      some (n.value, rest) := by
  obtain ⟨htake, hdrop⟩ := n.whole.span (n.tail.noDigit_text h)
  rw [Number.readUnsigned?, htake, hdrop]
  split
  · exact absurd ‹_› n.whole.ne_nil
  · cases n.eq_nil_of_zero _ ‹_›
  · exact n.tail.readTail?_text h _ _

/-- **A number is read to its end**, if what follows cannot be more of it. -/
theorem read?_text (n : Numeral) (h : EndsNumber rest) :
    Number.read? (n.text ++ rest) = some (n.value, rest) := by
  have hread := n.readUnsigned?_text h
  rw [text, List.append_assoc, List.append_assoc]
  cases hneg : n.negative with
  | true =>
    rw [hneg] at hread
    exact hread
  | false =>
    rw [hneg] at hread
    -- Without a sign the numeral starts with a digit, so it is not taken for a negative one.
    obtain ⟨c, cs, hcs⟩ := List.exists_cons_of_ne_nil n.whole.ne_nil
    have hc : isAsciiDigit c := n.whole.all_digits c (hcs ▸ List.mem_cons_self)
    rw [hcs] at hread ⊢
    show Number.read? (c :: _) = _
    rw [Number.read?]
    · exact hread
    · rintro r ⟨⟩
      exact absurd hc (by decide)

end Numeral

/-! ### What is read -/

/-- What is read of an exponent behind its sign. -/
theorem exists_signed (negative : Bool) {cs rest : List Char} {v : Int}
    (h : (if (cs.takeWhile isAsciiDigit).isEmpty then none
      else
        let n : Nat := (cs.takeWhile isAsciiDigit).foldl (fun n d => 10 * n + (d.toNat - 48)) 0
        some (if negative then -(n : Int) else n, cs.dropWhile isAsciiDigit)) = some (v, rest)) :
    ∃ d : Digits, cs = d.chars ++ rest ∧ v = if negative then -(d.value : Int) else d.value := by
  split at h
  · cases h
  · obtain ⟨rfl, rfl⟩ := Prod.mk.inj (Option.some.inj h)
    obtain ⟨d, htake, hcs⟩ := exists_digits (eq_false_of_ne_true ‹_›)
    exact ⟨d, hcs, by rw [htake]; rfl⟩

theorem exists_exponent {letter : Char} (hletter : letter = 'e' ∨ letter = 'E')
    {cs rest : List Char} {v : Int} (h : Number.readExponent? cs = some (v, rest)) :
    ∃ e : Exponent, letter :: cs = e.text ++ rest ∧ e.value = v := by
  unfold Number.readExponent? at h
  simp only at h
  split at h
  · obtain ⟨d, hcs, rfl⟩ := exists_signed false h
    exact ⟨⟨letter, ['+'], d, hletter, .inr (.inl rfl)⟩, congrArg (letter :: '+' :: ·) hcs, rfl⟩
  · obtain ⟨d, hcs, rfl⟩ := exists_signed true h
    exact ⟨⟨letter, ['-'], d, hletter, .inr (.inr rfl)⟩, congrArg (letter :: '-' :: ·) hcs, rfl⟩
  · obtain ⟨d, hcs, rfl⟩ := exists_signed false h
    exact ⟨⟨letter, [], d, hletter, .inl rfl⟩, congrArg (letter :: ·) hcs, rfl⟩

theorem exists_fraction {cs rest chars : List Char}
    (h : Number.readFraction? cs = some (chars, rest)) :
    ∃ d : Digits, cs = d.chars ++ rest ∧ d.chars = chars := by
  simp only [Number.readFraction?] at h
  split at h
  · cases h
  · obtain ⟨rfl, rfl⟩ := Prod.mk.inj (Option.some.inj h)
    obtain ⟨d, htake, hcs⟩ := exists_digits (eq_false_of_ne_true ‹_›)
    exact ⟨d, hcs, htake.symm⟩

theorem exists_tail {negative : Bool} {whole cs rest : List Char} {v : Number}
    (h : Number.readTail? negative whole cs = some (v, rest)) :
    ∃ t : NumberTail, cs = t.text ++ rest ∧ t.value negative whole = v := by
  have hexponent {letter : Char} (hletter : letter = 'e' ∨ letter = 'E')
      {fraction r : List Char}
      (h : ((Number.readExponent? r).map fun read =>
        (Number.ofDigits negative whole fraction read.1, read.2)) = some (v, rest)) :
      ∃ e : Exponent, letter :: r = e.text ++ rest ∧
        Number.ofDigits negative whole fraction e.value = v := by
    obtain ⟨⟨x, r'⟩, hread, heq⟩ := Option.map_eq_some_iff.1 h
    obtain ⟨rfl, rfl⟩ := Prod.mk.inj heq
    obtain ⟨e, htext, rfl⟩ := exists_exponent hletter hread
    exact ⟨e, htext, rfl⟩
  -- Each way to go on is the text of one shape of tail.
  unfold Number.readTail? at h
  simp only at h
  split at h
  · split at h
    · cases h
    · obtain ⟨d, rfl, rfl⟩ := exists_fraction ‹_›
      obtain ⟨e, htext, rfl⟩ := hexponent (.inl rfl) h
      exact ⟨⟨some d, some e⟩, by simp [NumberTail.text, htext], rfl⟩
    · obtain ⟨d, rfl, rfl⟩ := exists_fraction ‹_›
      obtain ⟨e, htext, rfl⟩ := hexponent (.inr rfl) h
      exact ⟨⟨some d, some e⟩, by simp [NumberTail.text, htext], rfl⟩
    · obtain ⟨rfl, rfl⟩ := Prod.mk.inj (Option.some.inj h)
      obtain ⟨d, rfl, rfl⟩ := exists_fraction ‹_›
      exact ⟨⟨some d, none⟩, by simp [NumberTail.text], rfl⟩
  · obtain ⟨e, htext, rfl⟩ := hexponent (.inl rfl) h
    exact ⟨⟨none, some e⟩, htext, rfl⟩
  · obtain ⟨e, htext, rfl⟩ := hexponent (.inr rfl) h
    exact ⟨⟨none, some e⟩, htext, rfl⟩
  · obtain ⟨rfl, rfl⟩ := Prod.mk.inj (Option.some.inj h)
    exact ⟨⟨none, none⟩, rfl, rfl⟩

theorem exists_unsigned {negative : Bool} {cs rest : List Char} {v : Number}
    (h : Number.readUnsigned? negative cs = some (v, rest)) :
    ∃ n : Numeral, n.negative = negative ∧ cs = n.whole.chars ++ (n.tail.text ++ rest) ∧
      n.value = v := by
  simp only [Number.readUnsigned?] at h
  split at h
  · cases h
  · cases h
  · rename_i hnil hzero
    obtain ⟨d, htake, hcs⟩ := exists_digits (by simpa using hnil)
    obtain ⟨t, htext, rfl⟩ := exists_tail h
    refine ⟨⟨negative, d, t, fun rest hd => ?_⟩, rfl, ?_, ?_⟩
    · -- Behind a leading zero there would be a digit that stops the reader.
      cases rest with
      | nil => rfl
      | cons c rest => exact absurd (htake.trans hd) (hzero c rest)
    · rw [← htext]
      exact hcs
    · exact congrArg (t.value negative) htake.symm

/-- **Nothing else is read as a number.** -/
theorem exists_numeral {cs rest : List Char} {v : Number}
    (h : Number.read? cs = some (v, rest)) :
    ∃ n : Numeral, cs = n.text ++ rest ∧ n.value = v := by
  unfold Number.read? at h
  split at h
  · obtain ⟨n, hneg, rfl, rfl⟩ := exists_unsigned h
    exact ⟨n, by simp [Numeral.text, hneg], rfl⟩
  · obtain ⟨n, hneg, rfl, rfl⟩ := exists_unsigned h
    exact ⟨n, by simp [Numeral.text, hneg], rfl⟩

/-! ### Integers -/

/-- Does an integer fit into 64 bits, signed or unsigned? -/
def IsInteger64 (i : Int) : Prop :=
  -(twoTo 63 : Int) ≤ i ∧ i < twoTo 64

theorem ofDigits_ne_integer (negative : Bool) (whole fraction : List Char) (e i : Int) :
    Number.ofDigits negative whole fraction e ≠ .integer i := by
  simp only [Number.ofDigits]
  split <;> simp

/-- **An integer that is read fits into 64 bits.** -/
theorem Numeral.isInteger64 {n : Numeral} {i : Int} (h : n.value = .integer i) : IsInteger64 i := by
  have hwhole : Number.ofWhole n.negative n.whole.chars = .integer i := by
    unfold Numeral.value NumberTail.value at h
    split at h
    · exact h
    · exact absurd h (ofDigits_ne_integer _ _ _ _ _)
  have h63 : 0 < twoTo 63 := by decide
  have h64 : twoTo 63 < twoTo 64 := by decide
  -- What does not fit into 64 bits is scaled as a double.
  unfold Number.ofWhole at hwhole
  simp only at hwhole
  split at hwhole
  · split at hwhole
    · obtain rfl := Number.integer.inj hwhole
      constructor <;> omega
    · exact absurd hwhole (ofDigits_ne_integer _ _ _ _ _)
  · split at hwhole
    · obtain rfl := Number.integer.inj hwhole
      constructor <;> omega
    · exact absurd hwhole (ofDigits_ne_integer _ _ _ _ _)

namespace Numeral

/-- The digits of a number start with a zero only if it is zero. -/
theorem eq_nil_of_toDigits {n : Nat} {rest : List Char} (h : Nat.toDigits 10 n = '0' :: rest) :
    rest = [] := by
  induction n using Nat.strongRecOn generalizing rest with
  | ind n ih =>
    rw [Nat.toDigits_eq_if (by decide)] at h
    split at h
    · exact (List.cons.inj h).2.symm
    · -- The digits of `n / 10` start with the same zero, so they are that zero.
      have hne : Nat.toDigits 10 (n / 10) ≠ [] := Nat.toDigits_ne_nil
      obtain ⟨c, cs, hcs⟩ := List.exists_cons_of_ne_nil hne
      rw [hcs, List.cons_append] at h
      obtain ⟨rfl, -⟩ := List.cons.inj h
      obtain rfl : cs = [] := ih (n / 10) (by omega) hcs
      have hvalue := Nat.ofDigitChars_ten_toDigits (n := n / 10)
      rw [hcs] at hvalue
      have hzero : n / 10 = 0 := hvalue.symm
      omega

/-- How an integer is spelled when it is written. -/
def ofInt (i : Int) : Numeral where
  negative := decide (i < 0)
  whole := {
    chars := Nat.toDigits 10 i.natAbs
    ne_nil := Nat.toDigits_ne_nil
    all_digits := fun c hc => by
      have hdigit := Nat.isDigit_of_mem_toDigits (b := 10) (by decide) (by decide) hc
      simpa [isAsciiDigit, Char.isDigit, Char.le_def] using hdigit }
  tail := ⟨none, none⟩
  eq_nil_of_zero := fun _ h => eq_nil_of_toDigits h

theorem text_ofInt (i : Int) : (ofInt i).text = writeInteger i := by
  by_cases hi : i < 0 <;> simp [text, ofInt, writeInteger, NumberTail.text, hi]

/-- **What is written for an integer of 64 bits denotes it.** -/
theorem value_ofInt {i : Int} (h : IsInteger64 i) : (ofInt i).value = .integer i := by
  have hdigits : (Nat.toDigits 10 i.natAbs).foldl (fun n d => 10 * n + (d.toNat - 48)) 0 =
      i.natAbs :=
    Nat.ofDigitChars_ten_toDigits
  obtain ⟨hlower, hupper⟩ := h
  show Number.ofWhole (decide (i < 0)) (Nat.toDigits 10 i.natAbs) = _
  rw [Number.ofWhole, hdigits]
  -- The two signs have ranges of their own, and the text of the digits has none.
  by_cases hi : i < 0
  · have hrange : 0 < i.natAbs ∧ i.natAbs ≤ twoTo 63 := by omega
    have habs : -(i.natAbs : Int) = i := by omega
    simp only [hi, hrange, decide_true, and_self, if_true, habs]
  · have hrange : i.natAbs < twoTo 64 := by omega
    have habs : (i.natAbs : Int) = i := by omega
    simp only [hi, hrange, decide_false, Bool.false_eq_true, if_true, if_false, habs]

end Numeral

end MachiningViewer.Json
