import MachiningViewer.Proofs.Number.Scientific
import MachiningViewer.Proofs.Toolpath.Comments
import MachiningViewer.Proofs.Toolpath.Directives

/-!
# What the scanner finds

A word may be spelled in many ways (`Word.Spelling`), and at one place of a text there may be
several that differ in how far they reach. The scanner goes from left to right and takes what it
takes in one go, and still nothing is lost. Wherever a word opens it takes the longest
(`Word.isLongest_of_numeralAfter?`), for a numeral is read greedily and cannot come out shorter than
any spelling of it (`Numeral.read?_spelling`). And what it takes has no place in it where another
word opens, so the words that are found are those of all places, in order (`Word.exists_finds`).

The value of a word is the double nearest to its numeral. A digit of another script than ASCII makes
up the numeral as well, but then the word is left out (`Word.Spelling.Denotes`).
-/

namespace MachiningViewer

open Text

/-! ### Spelled numerals -/

namespace Numeral

/-- The characters of a fraction, from its point on. -/
def pointed : Option (List Char) → List Char
  | none => []
  | some digits => '.' :: digits

/-- A numeral as it is spelled: digits, then at most one point, then digits; or a point and digits.
There may be a sign in front. -/
structure Spelling where
  sign : List Char
  whole : List Char
  /-- The digits behind the point, if there is a point. -/
  fraction : Option (List Char)
  sign_mem : sign ∈ [[], ['+'], ['-']]
  whole_digits : ∀ c ∈ whole, isDecimalDigit c = true
  fraction_digits : ∀ c ∈ fraction.getD [], isDecimalDigit c = true
  some_digit : whole ≠ [] ∨ fraction.getD [] ≠ []

namespace Spelling

/-- The digits of a numeral, without its point. -/
def digits (s : Spelling) : List Char :=
  s.whole ++ s.fraction.getD []

def text (s : Spelling) : List Char :=
  s.sign ++ (s.whole ++ pointed s.fraction)

/-- What the numeral is read as. -/
def numeral (s : Spelling) : Numeral :=
  ⟨s.sign = ['-'], s.whole, s.fraction.getD []⟩

end Spelling

/-- A digit, or a point and a digit. -/
def Opens (cs : List Char) : Prop :=
  ∃ d rest, isDecimalDigit d = true ∧ (cs = d :: rest ∨ cs = '.' :: d :: rest)

/-- What is read of digits and a point is a spelling. -/
theorem exists_spelled_of_unsigned? {negative : Bool} {cs rest : List Char} {n : Numeral}
    (h : unsigned? negative cs = some (n, rest)) :
    ∃ whole fraction, cs = whole ++ pointed fraction ++ rest ∧
      (∀ c ∈ whole, isDecimalDigit c = true) ∧ (∀ c ∈ fraction.getD [], isDecimalDigit c = true) ∧
      (whole ≠ [] ∨ fraction.getD [] ≠ []) ∧ n = ⟨negative, whole, fraction.getD []⟩ := by
  have hdigits (ds : List Char) : ∀ c ∈ ds.takeWhile isDecimalDigit, isDecimalDigit c = true :=
    fun c hc => List.mem_takeWhile_imp hc
  have hcs := (List.takeWhile_append_dropWhile (p := isDecimalDigit) (l := cs)).symm
  unfold unsigned? at h
  simp only at h
  split at h
  · -- A point follows the whole digits: the fraction is the run of digits behind it, and one of the
    -- two runs is not empty.
    rename_i r hpoint
    split at h
    · cases h
    · rename_i hsome
      obtain ⟨rfl, rfl⟩ := Prod.mk.inj (Option.some.inj h)
      refine ⟨_, some (r.takeWhile isDecimalDigit), ?_, hdigits cs, hdigits r, ?_, rfl⟩
      · rw [hpoint] at hcs
        rw [pointed, List.append_assoc, List.cons_append, List.takeWhile_append_dropWhile]
        exact hcs
      · simpa [or_iff_not_imp_left] using hsome
  · split at h
    · cases h
    · rename_i hwhole
      obtain ⟨rfl, rfl⟩ := Prod.mk.inj (Option.some.inj h)
      refine ⟨_, none, ?_, hdigits cs, ?_, .inl ?_, rfl⟩
      · rw [pointed, List.append_nil]
        exact hcs
      · intro c hc
        cases hc
      · simpa using hwhole

/-- A spelling is read, and no less than it. -/
theorem unsigned?_spelled (negative : Bool) {whole : List Char} {fraction : Option (List Char)}
    (hwhole : ∀ c ∈ whole, isDecimalDigit c = true)
    (hfraction : ∀ c ∈ fraction.getD [], isDecimalDigit c = true)
    (hsome : whole ≠ [] ∨ fraction.getD [] ≠ []) (rest : List Char) :
    ∃ n rest', unsigned? negative (whole ++ pointed fraction ++ rest) = some (n, rest') ∧
      rest'.length ≤ rest.length := by
  cases fraction with
  | none =>
    have hne : whole ≠ [] := hsome.resolve_right (· rfl)
    have hrest := length_dropWhile_le isDecimalDigit rest
    unfold unsigned?
    simp only [pointed, List.append_nil, List.takeWhile_append_of_pos hwhole,
      List.dropWhile_append_of_pos hwhole]
    split
    · rename_i r hpoint
      have hr := length_dropWhile_le isDecimalDigit r
      rw [hpoint, List.length_cons] at hrest
      rw [if_neg (by simp [hne])]
      exact ⟨_, _, rfl, by omega⟩
    · rw [if_neg (by simp [hne])]
      exact ⟨_, _, rfl, hrest⟩
  | some digits =>
    have hpoint : isDecimalDigit '.' = false := by decide
    have hrest := length_dropWhile_le isDecimalDigit rest
    have hnone : ('.' :: (digits ++ rest)).takeWhile isDecimalDigit = [] :=
      List.takeWhile_cons_of_neg (by simp [hpoint])
    have hall : ('.' :: (digits ++ rest)).dropWhile isDecimalDigit = '.' :: (digits ++ rest) :=
      List.dropWhile_cons_of_neg (by simp [hpoint])
    -- The digits behind the point may go on into `rest`, which only makes the numeral longer.
    have hne : ¬ (whole.isEmpty && (digits ++ rest.takeWhile isDecimalDigit).isEmpty) = true := by
      rcases hsome with h | h
      · simp [h]
      · have h' : digits ≠ [] := h
        simp [h']
    unfold unsigned?
    simp only [pointed, List.append_assoc, List.cons_append, List.takeWhile_append_of_pos hwhole,
      List.dropWhile_append_of_pos hwhole, hnone, hall, List.append_nil,
      List.takeWhile_append_of_pos (show ∀ c ∈ digits, isDecimalDigit c = true from hfraction),
      List.dropWhile_append_of_pos (show ∀ c ∈ digits, isDecimalDigit c = true from hfraction)]
    rw [if_neg hne]
    exact ⟨_, _, rfl, hrest⟩

theorem opens_spelled {whole : List Char} {fraction : Option (List Char)}
    (hwhole : ∀ c ∈ whole, isDecimalDigit c = true)
    (hfraction : ∀ c ∈ fraction.getD [], isDecimalDigit c = true)
    (hsome : whole ≠ [] ∨ fraction.getD [] ≠ []) (rest : List Char) :
    Opens (whole ++ pointed fraction ++ rest) := by
  cases whole with
  | cons d whole => exact ⟨d, _, hwhole d List.mem_cons_self, .inl rfl⟩
  | nil =>
    cases fraction with
    | none => exact absurd rfl (hsome.resolve_left (· rfl))
    | some digits =>
      obtain ⟨d, digits, rfl⟩ := List.exists_cons_of_ne_nil (hsome.resolve_left (· rfl))
      exact ⟨d, _, hfraction d List.mem_cons_self, .inr rfl⟩

theorem of_opens {c : Char} {cs : List Char} (h : Opens (c :: cs)) :
    isBlank c = false ∧ c ≠ '+' ∧ c ≠ '-' := by
  obtain ⟨d, rest, hd, hcs⟩ := h
  -- A numeral begins with a digit or with the point.
  have hdigit {e : Char} (he : isDecimalDigit e = true) :
      isBlank e = false ∧ e ≠ '+' ∧ e ≠ '-' := by
    refine ⟨Bool.eq_false_iff.2 fun hblank => ?_, ?_, ?_⟩
    · rw [isDecimalDigit_of_isBlank hblank] at he
      exact Bool.noConfusion he
    · rintro rfl
      revert he
      decide
    · rintro rfl
      revert he
      decide
  rcases hcs with hcs | hcs
  · obtain ⟨rfl, -⟩ := List.cons.inj hcs
    exact hdigit hd
  · obtain ⟨rfl, -⟩ := List.cons.inj hcs
    decide

/-- What is read with a sign is a spelling. -/
theorem exists_spelling_of_read? {cs rest : List Char} {n : Numeral}
    (h : read? cs = some (n, rest)) : ∃ s : Spelling, cs = s.text ++ rest ∧ s.numeral = n := by
  have hsigned (sign : List Char) {us : List Char} (hsign : sign ∈ [[], ['+'], ['-']])
      (hunsigned : unsigned? (sign = ['-']) us = some (n, rest)) :
      ∃ s : Spelling, sign ++ us = s.text ++ rest ∧ s.numeral = n := by
    obtain ⟨whole, fraction, rfl, hwhole, hfraction, hsome, rfl⟩ :=
      exists_spelled_of_unsigned? hunsigned
    refine ⟨⟨sign, whole, fraction, hsign, hwhole, hfraction, hsome⟩, ?_, rfl⟩
    simp [Spelling.text]
  unfold read? at h
  split at h
  · exact hsigned ['+'] (by decide) h
  · exact hsigned ['-'] (by decide) h
  · exact hsigned [] (by decide) h

theorem read?_of_opens {cs : List Char} (h : Opens cs) : read? cs = unsigned? false cs := by
  cases cs with
  | nil => rfl
  | cons c cs =>
    obtain ⟨-, hplus, hminus⟩ := of_opens h
    exact Word.read?_of_ne hplus hminus cs

/-- A spelling is read with its sign, and no less than it. -/
theorem read?_spelling (s : Spelling) (rest : List Char) :
    ∃ n rest', read? (s.text ++ rest) = some (n, rest') ∧ rest'.length ≤ rest.length := by
  obtain ⟨sign, whole, fraction, hsign, hwhole, hfraction, hsome⟩ := s
  have hunsigned (negative : Bool) := unsigned?_spelled negative hwhole hfraction hsome rest
  have hopens := opens_spelled hwhole hfraction hsome rest
  simp only [Spelling.text, List.append_assoc] at hunsigned hopens ⊢
  simp only [List.mem_cons, List.not_mem_nil, or_false] at hsign
  rcases hsign with rfl | rfl | rfl
  · rw [List.nil_append, read?_of_opens hopens]
    exact hunsigned false
  · exact hunsigned false
  · exact hunsigned true

theorem trimStart_sign_append {sign cs : List Char} (hsign : sign ∈ [[], ['+'], ['-']])
    (h : Opens cs) : trimStart (sign ++ cs) = sign ++ cs := by
  simp only [List.mem_cons, List.not_mem_nil, or_false] at hsign
  rcases hsign with rfl | rfl | rfl
  · cases cs with
    | nil => rfl
    | cons c cs => exact List.dropWhile_cons_of_neg (by simp [(of_opens h).1])
  · exact List.dropWhile_cons_of_neg (by decide)
  · exact List.dropWhile_cons_of_neg (by decide)

end Numeral

/-! ### Spelled words -/

namespace Word

/-- A word as it is spelled: its letter, blanks and a numeral. -/
structure Spelling where
  letter : Char
  blanks : List Char
  numeral : Numeral.Spelling
  isAddress_letter : isAddress letter = true
  all_blank : AllBlank blanks

namespace Spelling

def text (s : Spelling) : List Char :=
  s.letter :: (s.blanks ++ s.numeral.text)

/-- No other word is longer that is spelled at the front of the text. -/
def IsLongest (s : Spelling) (cs : List Char) : Prop :=
  s.text <+: cs ∧ ∀ t : Spelling, t.text <+: cs → t.text.length ≤ s.text.length

end Spelling

/-- A word opens here: an address letter, blanks if there are any, a sign if there is one, and then
a digit or a point and a digit. -/
def Opens (cs : List Char) : Prop :=
  ∃ letter blanks sign rest, cs = letter :: (blanks ++ (sign ++ rest)) ∧ isAddress letter = true ∧
    AllBlank blanks ∧ sign ∈ [[], ['+'], ['-']] ∧ Numeral.Opens rest

theorem exists_spelling_of_numeralAfter? {c : Char} {cs rest : List Char} {n : Numeral}
    (hc : isAddress c = true) (h : numeralAfter? cs = some (n, rest)) :
    ∃ s : Spelling, c :: cs = s.text ++ rest ∧ s.letter = c ∧ s.numeral.numeral = n := by
  obtain ⟨s, hs, hn⟩ := Numeral.exists_spelling_of_read? h
  have hblank : AllBlank (cs.takeWhile isBlank) := fun d hd => List.mem_takeWhile_imp hd
  refine ⟨⟨c, cs.takeWhile isBlank, s, hc, hblank⟩, ?_, rfl, hn⟩
  have hcs : cs.takeWhile isBlank ++ trimStart cs = cs := List.takeWhile_append_dropWhile
  rw [Spelling.text, List.cons_append, List.append_assoc, ← hs, hcs]

theorem numeralAfter?_spelling (s : Spelling) (rest : List Char) :
    ∃ n rest', numeralAfter? (s.blanks ++ s.numeral.text ++ rest) = some (n, rest') ∧
      rest'.length ≤ rest.length := by
  have hstop : trimStart (s.numeral.text ++ rest) = s.numeral.text ++ rest := by
    have hopens := Numeral.opens_spelled s.numeral.whole_digits s.numeral.fraction_digits
      s.numeral.some_digit rest
    have hstop := Numeral.trimStart_sign_append s.numeral.sign_mem hopens
    simpa [Numeral.Spelling.text] using hstop
  rw [numeralAfter?, List.append_assoc, trimStart_append s.all_blank, hstop]
  exact Numeral.read?_spelling s.numeral rest

/-- A word opens where one is spelled. -/
theorem opens_iff {cs : List Char} : Opens cs ↔ ∃ s : Spelling, s.text <+: cs := by
  constructor
  · rintro ⟨letter, blanks, sign, rest, rfl, hletter, hblanks, hsign, d, more, hd, hrest⟩
    have hdigits : ∀ c ∈ [d], isDecimalDigit c = true := by simpa using hd
    -- One digit is enough for a numeral.
    rcases hrest with rfl | rfl
    · refine ⟨⟨letter, blanks, ⟨sign, [d], none, hsign, hdigits, by simp, by simp⟩, hletter,
        hblanks⟩, more, ?_⟩
      simp [Spelling.text, Numeral.Spelling.text, Numeral.pointed]
    · refine ⟨⟨letter, blanks, ⟨sign, [], some [d], hsign, by simp, hdigits, by simp⟩, hletter,
        hblanks⟩, more, ?_⟩
      simp [Spelling.text, Numeral.Spelling.text, Numeral.pointed]
  · rintro ⟨s, rest, rfl⟩
    refine ⟨s.letter, s.blanks, s.numeral.sign,
      s.numeral.whole ++ Numeral.pointed s.numeral.fraction ++ rest, ?_, s.isAddress_letter,
      s.all_blank, s.numeral.sign_mem, ?_⟩
    · simp [Spelling.text, Numeral.Spelling.text]
    · exact Numeral.opens_spelled s.numeral.whole_digits s.numeral.fraction_digits
        s.numeral.some_digit rest

/-- **What the scanner takes is the longest word that is spelled**, if any is. -/
theorem isLongest_of_numeralAfter? {c : Char} {cs rest : List Char} {n : Numeral}
    (hc : isAddress c = true) (h : numeralAfter? cs = some (n, rest)) :
    ∃ s : Spelling, s.IsLongest (c :: cs) ∧ s.letter = c ∧ s.numeral.numeral = n := by
  obtain ⟨s, hs, hletter, hn⟩ := exists_spelling_of_numeralAfter? hc h
  refine ⟨s, ⟨⟨rest, hs.symm⟩, ?_⟩, hletter, hn⟩
  rintro t ⟨rest', ht⟩
  obtain ⟨n', rest'', hread, hle⟩ := numeralAfter?_spelling t rest'
  obtain ⟨rfl, hcs⟩ := List.cons.inj ht
  have hrest : rest'' = rest := by
    have hsame := hread.symm.trans ((congrArg numeralAfter? hcs).trans h)
    exact (Prod.mk.inj (Option.some.inj hsame)).2
  have hlength := congrArg List.length (ht.trans hs)
  simp only [List.length_append] at hlength
  rw [hrest] at hle
  omega

theorem not_opens_of_numeralAfter? {c : Char} {cs : List Char} (h : numeralAfter? cs = none) :
    ¬ Opens (c :: cs) := by
  intro hopens
  obtain ⟨s, rest, hs⟩ := opens_iff.1 hopens
  obtain ⟨n, rest', hread, -⟩ := numeralAfter?_spelling s rest
  have hnone := (congrArg numeralAfter? (List.cons.inj hs).2).trans h
  cases hread.symm.trans hnone

theorem not_opens_of_not_isAddress {c : Char} {cs : List Char} (hc : ¬ isAddress c = true) :
    ¬ Opens (c :: cs) := by
  rintro ⟨letter, blanks, sign, rest, heq, hletter, -⟩
  obtain ⟨rfl, -⟩ := List.cons.inj heq
  exact hc hletter

end Word

/-! ### Values -/

namespace Numeral

theorem digitsValue_eq_ofDigits (ds : List Char) :
    digitsValue 0 ds = Nat.ofDigits 10 (ds.reverse.map fun d => d.toNat - 48) := by
  rw [Nat.ofDigits_eq_foldr, List.foldr_map, List.foldr_reverse]
  unfold digitsValue
  congr 1
  funext n d
  exact add_comm _ _

namespace Spelling

/-- The number that the digits denote if they are of ASCII, without the point. -/
def significand (s : Spelling) : ℕ :=
  Nat.ofDigits 10 (s.digits.reverse.map fun d => d.toNat - 48)

/-- The number that the numeral denotes, but for its sign. -/
def magnitude (s : Spelling) : ℚ :=
  s.significand / 10 ^ (s.fraction.getD []).length

/-- A numeral is negative if it has a minus sign, even one of zeros. -/
def polarity (s : Spelling) : Float.Model.UnpackedFloat.Sign :=
  if s.sign = ['-'] then .negative else .positive

theorem value?_eq (s : Spelling) :
    (∃ c ∈ s.digits, isAsciiDigit c = false) ∧ s.numeral.value? = none ∨
      (∀ c ∈ s.digits, isAsciiDigit c = true) ∧
        ∃ v, s.numeral.value? = some v ∧ Double.IsRounding s.polarity s.magnitude v := by
  have hascii : (s.whole.all isAsciiDigit && (s.fraction.getD []).all isAsciiDigit) =
      s.digits.all isAsciiDigit := List.all_append.symm
  have hvalue : digitsValue (digitsValue 0 s.whole) (s.fraction.getD []) =
      digitsValue 0 s.digits := (List.foldl_append ..).symm
  have hrounding := Double.isRounding_ofScientific (digitsValue 0 s.digits)
    (s.fraction.getD []).length
  unfold value? numeral magnitude significand polarity
  simp only [hascii, hvalue, decide_eq_true_eq]
  rw [digitsValue_eq_ofDigits] at hrounding ⊢
  cases hall : s.digits.all isAsciiDigit with
  | false =>
    left
    obtain ⟨c, hc, hnot⟩ := List.all_eq_false.1 hall
    exact ⟨⟨c, hc, by simpa using hnot⟩, rfl⟩
  | true =>
    right
    refine ⟨List.all_eq_true.1 hall, _, rfl, ?_⟩
    split
    · exact hrounding.neg
    · exact hrounding

end Spelling

end Numeral

namespace Word

namespace Spelling

/-- What is found of a spelled word. It has its letter as a capital and the double nearest to its
numeral, and it is left out only if a digit is none of ASCII. -/
inductive Denotes (s : Spelling) : Option Word → Prop
  | leftOut (h : ∃ c ∈ s.numeral.digits, isAsciiDigit c = false) : Denotes s none
  | word {v : Float} (h : ∀ c ∈ s.numeral.digits, isAsciiDigit c = true)
      (hv : Double.IsRounding s.numeral.polarity s.numeral.magnitude v) :
      Denotes s (some ⟨s.letter.toUpper, v⟩)

theorem denotes_ofNumeral? (s : Spelling) :
    s.Denotes (ofNumeral? s.letter s.numeral.numeral) := by
  unfold ofNumeral?
  rcases s.numeral.value?_eq with ⟨hother, hnone⟩ | ⟨hascii, v, hv, hrounding⟩
  · rw [hnone]
    exact .leftOut hother
  · rw [hv]
    exact .word hascii hrounding

end Spelling

/-! ### Places -/

/-- What the scanner finds at a place of the text. -/
structure Found where
  place : ℕ
  spelling : Spelling
  /-- The word, unless it is left out. -/
  word? : Option Word

/-- The same, seen with one more character in front. -/
def Found.shift (f : Found) : Found :=
  { f with place := f.place + 1 }

/-- All that is to be found in a text, in the order of the places. -/
structure Finds (cs : List Char) (found : List Found) : Prop where
  ordered : found.Pairwise fun f g => f.place < g.place
  opens : ∀ i, (∃ f ∈ found, f.place = i) ↔ Opens (cs.drop i)
  longest : ∀ f ∈ found, f.spelling.IsLongest (cs.drop f.place)
  denotes : ∀ f ∈ found, f.spelling.Denotes f.word?

namespace Finds

variable {c : Char} {cs : List Char} {found : List Found}

theorem nil : Finds [] [] := by
  refine ⟨.nil, fun i => ?_, ?_, ?_⟩
  · constructor
    · rintro ⟨f, hf, -⟩
      cases hf
    · rintro ⟨letter, blanks, sign, rest, heq, -⟩
      rw [List.drop_nil] at heq
      cases heq
  · intro f hf
    cases hf
  · intro f hf
    cases hf

theorem shift_ordered (h : Finds cs found) :
    (found.map Found.shift).Pairwise fun f g => f.place < g.place := by
  rw [List.pairwise_map]
  exact h.ordered.imp fun hlt => Nat.succ_lt_succ hlt

theorem exists_shift_iff (h : Finds cs found) (i : ℕ) :
    (∃ f ∈ found.map Found.shift, f.place = i) ↔ ∃ j, i = j + 1 ∧ Opens (cs.drop j) := by
  constructor
  · rintro ⟨f, hf, rfl⟩
    obtain ⟨g, hg, rfl⟩ := List.mem_map.1 hf
    exact ⟨g.place, rfl, (h.opens _).1 ⟨g, hg, rfl⟩⟩
  · rintro ⟨j, rfl, hj⟩
    obtain ⟨g, hg, rfl⟩ := (h.opens j).2 hj
    exact ⟨g.shift, List.mem_map_of_mem hg, rfl⟩

theorem cons_of_not_opens (h : Finds cs found) (hc : ¬ Opens (c :: cs)) :
    Finds (c :: cs) (found.map Found.shift) := by
  refine ⟨h.shift_ordered, fun i => ?_, fun f hf => ?_, fun f hf => ?_⟩
  · rw [h.exists_shift_iff]
    cases i with
    | zero => simpa using hc
    | succ i => simp
  · obtain ⟨g, hg, rfl⟩ := List.mem_map.1 hf
    exact h.longest g hg
  · obtain ⟨g, hg, rfl⟩ := List.mem_map.1 hf
    exact h.denotes g hg

theorem cons {s : Spelling} {w : Option Word} (h : Finds cs found) (hs : s.IsLongest (c :: cs))
    (hw : s.Denotes w) : Finds (c :: cs) (⟨0, s, w⟩ :: found.map Found.shift) := by
  refine ⟨.cons ?_ h.shift_ordered, fun i => ?_, fun f hf => ?_, fun f hf => ?_⟩
  · intro f hf
    obtain ⟨g, -, rfl⟩ := List.mem_map.1 hf
    exact Nat.succ_pos _
  · -- Place 0 holds the new word, and any later place one of the old words moved by one.
    rw [List.exists_mem_cons_iff, h.exists_shift_iff]
    cases i with
    | zero =>
      have hopens : Opens (c :: cs) := opens_iff.2 ⟨s, hs.1⟩
      simpa using hopens
    | succ i => simp
  · rcases List.mem_cons.1 hf with rfl | hf
    · exact hs
    · obtain ⟨g, hg, rfl⟩ := List.mem_map.1 hf
      exact h.longest g hg
  · rcases List.mem_cons.1 hf with rfl | hf
    · exact hw
    · obtain ⟨g, hg, rfl⟩ := List.mem_map.1 hf
      exact h.denotes g hg

end Finds

theorem filterMap_shift (found : List Found) :
    (found.map Found.shift).filterMap Found.word? = found.filterMap Found.word? := by
  rw [List.filterMap_map]
  rfl

/-- **The scanner finds all that is to be found.** -/
theorem exists_finds (cs : List Char) :
    ∃ found, Finds cs found ∧ scan cs = found.filterMap Found.word? := by
  induction cs with
  | nil => exact ⟨[], .nil, by rw [scan]; rfl⟩
  | cons c cs ih =>
    obtain ⟨found, hfinds, hscan⟩ := ih
    by_cases hc : isAddress c = true
    · rw [scan_cons_of_isAddress hc, hscan]
      -- An address letter opens a place if and only if a numeral follows it.
      cases h : numeralAfter? cs with
      | none =>
        refine ⟨_, hfinds.cons_of_not_opens (not_opens_of_numeralAfter? h), ?_⟩
        rw [filterMap_shift]
        rfl
      | some taken =>
        obtain ⟨n, rest⟩ := taken
        obtain ⟨s, hlongest, rfl, rfl⟩ := isLongest_of_numeralAfter? hc h
        refine ⟨_, hfinds.cons hlongest s.denotes_ofNumeral?, ?_⟩
        rw [List.filterMap_cons, filterMap_shift]
        cases hw : ofNumeral? s.letter s.numeral.numeral with
        | none => simp [hw]
        | some w => simp [hw]
    · rw [scan_cons_of_not_isAddress hc, hscan]
      refine ⟨_, hfinds.cons_of_not_opens (not_opens_of_not_isAddress hc), ?_⟩
      rw [filterMap_shift]

/-! ### Cutting a text -/

/-- An address letter stops what is read up to it. -/
theorem span_append {p : Char → Bool} {c : Char} (hc : p c = false) (a b : List Char) :
    (a ++ c :: b).takeWhile p = a.takeWhile p ∧
      (a ++ c :: b).dropWhile p = a.dropWhile p ++ c :: b := by
  induction a with
  | nil => simp [hc]
  | cons d a ih =>
    rw [List.cons_append]
    cases hd : p d with
    | true => simp [hd, ih]
    | false => simp [hd]

theorem unsigned?_append {c : Char} (hc : isAddress c = true) (negative : Bool) (a b : List Char) :
    Numeral.unsigned? negative (a ++ c :: b) =
      (Numeral.unsigned? negative a).map fun (n, rest) => (n, rest ++ c :: b) := by
  have hdigit : isDecimalDigit c = false :=
    Bool.eq_false_iff.2 fun h => not_isAddress_of_isDecimalDigit h hc
  have hpoint : c ≠ '.' := by
    rintro rfl
    revert hc
    decide
  -- The address letter is neither a digit nor the point, so no run of digits goes past it.
  have hspan := span_append hdigit
  unfold Numeral.unsigned?
  simp only [hspan]
  cases a.dropWhile isDecimalDigit with
  | nil => cases (a.takeWhile isDecimalDigit).isEmpty <;> simp [hpoint]
  | cons d rest =>
    by_cases hd : d = '.'
    · subst hd
      simp only [List.cons_append, hspan]
      split <;> rfl
    · cases (a.takeWhile isDecimalDigit).isEmpty <;> simp [hd]

theorem read?_append {c : Char} (hc : isAddress c = true) (a b : List Char) :
    Numeral.read? (a ++ c :: b) = (Numeral.read? a).map fun (n, rest) => (n, rest ++ c :: b) := by
  have hsign {d : Char} (hd : ¬ isAddress d = true) : c ≠ d := by
    rintro rfl
    exact hd hc
  cases a with
  | nil =>
    rw [List.nil_append, read?_of_ne (hsign (by decide)) (hsign (by decide))]
    exact unsigned?_append hc false [] b
  | cons d a =>
    by_cases hplus : d = '+'
    · subst hplus
      exact unsigned?_append hc false a b
    · by_cases hminus : d = '-'
      · subst hminus
        exact unsigned?_append hc true a b
      · rw [List.cons_append, read?_of_ne hplus hminus, read?_of_ne hplus hminus]
        exact unsigned?_append hc false (d :: a) b

theorem numeralAfter?_append {c : Char} (hc : isAddress c = true) (a b : List Char) :
    numeralAfter? (a ++ c :: b) = (numeralAfter? a).map fun (n, rest) => (n, rest ++ c :: b) := by
  have hblank : isBlank c = false := Bool.eq_false_iff.2 fun h => not_isAddress_of_isBlank h hc
  rw [numeralAfter?, numeralAfter?, trimStart, trimStart, (span_append hblank a b).2]
  exact read?_append hc _ b

/-- **No word reaches across an address letter**, so a text may be cut in front of one. -/
theorem scan_append {c : Char} (hc : isAddress c = true) (a b : List Char) :
    scan (a ++ c :: b) = scan a ++ scan (c :: b) := by
  induction a with
  | nil =>
    have hnil : scan [] = [] := by rw [scan]
    rw [hnil]
    rfl
  | cons d a ih =>
    rw [List.cons_append]
    by_cases hd : isAddress d = true
    · rw [scan_cons_of_isAddress hd, scan_cons_of_isAddress hd, numeralAfter?_append hc, ih]
      cases numeralAfter? a <;> simp
    · rw [scan_cons_of_not_isAddress hd, scan_cons_of_not_isAddress hd, ih]

/-- **The scanner is exact.** It finds one word for each place where one opens, in order, and none
elsewhere: the longest that is spelled there, with the double nearest to its numeral. So what stands
in front of a letter has no effect on what is found from there on. -/
theorem scan_exact :
    (∀ cs, ∃ found, Finds cs found ∧ scan cs = found.filterMap Found.word?) ∧
      ∀ a c b, isAsciiLetter c = true → scan (a ++ c :: b) = scan a ++ scan (c :: b) := by
  refine ⟨exists_finds, fun a c b hc => ?_⟩
  have haddress : isAddress c = true := by simp [isAddress, hc]
  exact scan_append haddress a b

/-- A sign and a second point end the words before them. -/
theorem scan_packed :
    isAsciiLetter 'y' = true ∧
      scan ("X1.5.2-".toList ++ 'y' :: " -.5z".toList) =
        scan "X1.5.2-".toList ++ scan ('y' :: " -.5z".toList) := by
  have hletter : isAsciiLetter 'y' = true := by decide
  exact ⟨hletter, scan_exact.2 _ _ _ hletter⟩

end Word

end MachiningViewer
