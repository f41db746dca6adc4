import MachiningViewer.Proofs.Number.Doubles
import MachiningViewer.Proofs.Toolpath.Declared

/-!
# Unit directives

A text asks for millimetres with a `G` word of value 21 and for inches with one of value 20, on any
line that has a body and anywhere in it: a word is found wherever its letter stands, since no other
word can take the letter in (`Word.mem_scan_iff`). Which of the two words a text gives is all that
its unit depends on (`Toolpath.unit_detection`). Neither the order of the lines nor the number of
the words has a say, and a text that gives both has no unit, however it goes on.

The motion word of a line may itself be a `G` word, but it is none of the two: its numeral ends
where the motion word ends (`Word.numeralAfter?_digits`), so its value is 0 or 1. A line thus asks
for the same units with its motion word and without it (`Block.Opens.standsIn_iff`).
-/

namespace MachiningViewer

open Text

/-! ### Where words stand -/

/-- The blanks beyond ASCII. -/
def Text.wideBlanks : List Nat :=
  [0x85, 0xA0, 0x1680, 0x2000, 0x2001, 0x2002, 0x2003, 0x2004, 0x2005, 0x2006, 0x2007, 0x2008,
    0x2009, 0x200A, 0x2028, 0x2029, 0x202F, 0x205F, 0x3000]

/-- The blanks beyond ASCII stand outside of every run of digits. -/
theorem Text.any_digitZeros_wideBlanks :
    ∀ n ∈ wideBlanks, ¬ n < 0x80 ∧ (digitZeros.any fun z => z ≤ n && n < z + 10) = false := by
  simp only [← Array.any_toList]
  decide

/-- A blank is no digit of any script. -/
theorem Text.isDecimalDigit_of_isBlank {c : Char} (hc : isBlank c = true) :
    isDecimalDigit c = false := by
  have hcases : c.toNat < 0x30 ∨ c.toNat ∈ wideBlanks := by
    simp only [isBlank, Bool.or_eq_true, Bool.and_eq_true, decide_eq_true_eq, beq_iff_eq] at hc
    simp only [wideBlanks, List.mem_cons, List.not_mem_nil, or_false]
    omega
  unfold isDecimalDigit
  -- The blanks below the digits are settled by comparison, the few others one by one.
  obtain hbelow | hwide := hcases
  · rw [if_pos (by omega), Bool.and_eq_false_iff]
    have hnot : ¬ '0' ≤ c := fun hle => by
      have hzero : 0x30 ≤ c.toNat := hle
      omega
    exact .inl (decide_eq_false hnot)
  · obtain ⟨hascii, hany⟩ := any_digitZeros_wideBlanks _ hwide
    rw [if_neg hascii, hany]

theorem Text.toNat_of_isAsciiDigit {c : Char} (hc : isAsciiDigit c = true) :
    0x30 ≤ c.toNat ∧ c.toNat ≤ 0x39 := by
  rw [isAsciiDigit, Bool.and_eq_true, decide_eq_true_iff, decide_eq_true_iff] at hc
  exact hc

theorem Text.isDecimalDigit_of_isAsciiDigit {c : Char} (hc : isAsciiDigit c = true) :
    isDecimalDigit c = true := by
  have hascii : c.toNat < 0x80 := by
    have hle := (toNat_of_isAsciiDigit hc).2
    omega
  rw [isDecimalDigit, if_pos hascii]
  exact hc

namespace Word

/-- Somewhere in the text an address letter and the numeral behind it make up the word. -/
def StandsIn (w : Word) (cs : List Char) : Prop :=
  ∃ letter after, letter :: after <:+ cs ∧ isAddress letter ∧
    ∃ n rest, numeralAfter? after = some (n, rest) ∧ ofNumeral? letter n = some w

/-- The words of a text are those that stand in it, wherever that is. -/
theorem mem_scan_iff {w : Word} {cs : List Char} : w ∈ scan cs ↔ w.StandsIn cs := by
  induction cs with
  | nil =>
    constructor
    · intro hw
      rw [scan] at hw
      cases hw
    · rintro ⟨letter, after, hsuffix, -⟩
      cases List.suffix_nil.1 hsuffix
  | cons c cs ih =>
    -- The word stands at the first character, or it stands in what follows.
    have hstands : w.StandsIn (c :: cs) ↔
        (isAddress c ∧ ∃ n rest, numeralAfter? cs = some (n, rest) ∧ ofNumeral? c n = some w) ∨
          w.StandsIn cs := by
      simp only [StandsIn, List.suffix_cons_iff, List.cons_eq_cons, or_and_right, exists_or]
      simp
    rw [hstands, ← ih]
    by_cases hc : isAddress c
    · rw [scan_cons_of_isAddress hc, List.mem_append, Option.mem_toList,
        Option.bind_eq_some_iff]
      simp [hc]
    · rw [scan_cons_of_not_isAddress hc]
      simp [hc]

/-- Digits are a whole numeral before what cannot belong to one. -/
theorem unsigned?_digits {digits rest : List Char} (hne : digits ≠ [])
    (hdigits : ∀ c ∈ digits, isDecimalDigit c = true)
    (hrest : ∀ c ∈ rest.head?, isDecimalDigit c = false ∧ c ≠ '.') :
    Numeral.unsigned? false (digits ++ rest) = some (⟨false, digits, []⟩, rest) := by
  -- What follows starts with no digit, so the digits end where they are meant to.
  have htake : rest.takeWhile isDecimalDigit = [] := by
    cases rest with
    | nil => rfl
    | cons c rest => exact List.takeWhile_cons_of_neg (by simp [(hrest c rfl).1])
  have hdrop : rest.dropWhile isDecimalDigit = rest := by
    cases rest with
    | nil => rfl
    | cons c rest => exact List.dropWhile_cons_of_neg (by simp [(hrest c rfl).1])
  unfold Numeral.unsigned?
  simp only [List.takeWhile_append_of_pos hdigits, List.dropWhile_append_of_pos hdigits, htake,
    hdrop, List.append_nil]
  split
  · exact absurd rfl (hrest '.' rfl).2
  · rw [if_neg (by simpa using hne)]

/-- Neither a sign nor a blank stands before digits, so the numeral of a word may be just digits. -/
theorem numeralAfter?_digits {digits rest : List Char} (hne : digits ≠ [])
    (hdigits : ∀ c ∈ digits, isAsciiDigit c = true)
    (hrest : ∀ c ∈ rest.head?, isDecimalDigit c = false ∧ c ≠ '.') :
    numeralAfter? (digits ++ rest) = some (⟨false, digits, []⟩, rest) := by
  have hdecimal : ∀ c ∈ digits, isDecimalDigit c = true := fun c hc =>
    isDecimalDigit_of_isAsciiDigit (hdigits c hc)
  have hunsigned := unsigned?_digits hne hdecimal hrest
  obtain ⟨c, digits, rfl⟩ := List.exists_cons_of_ne_nil hne
  obtain ⟨hzero, hnine⟩ := toNat_of_isAsciiDigit (hdigits c List.mem_cons_self)
  have hblank : ¬ isBlank c = true := by
    simp only [isBlank, Bool.or_eq_true, Bool.and_eq_true, decide_eq_true_eq, beq_iff_eq]
    omega
  -- A digit is neither a blank nor a sign, both of which come before the numeral.
  have hsign {d : Char} (hd : d.toNat < 0x30) : c ≠ d := by
    rintro rfl
    omega
  rw [numeralAfter?, trimStart, List.cons_append, List.dropWhile_cons_of_neg hblank,
    read?_of_ne (hsign (by decide)) (hsign (by decide))]
  exact hunsigned

end Word

/-! ### Motion words -/

namespace Block

/-- The numerals of the motion words with digits. -/
def motionNumerals : MoveKind → List (List Char)
  | .rapid => [['0'], ['0', '0']]
  | .feed => [['1'], ['0', '1']]

theorem codes_eq_map (kind : MoveKind) : codes kind = (motionNumerals kind).map ('G' :: ·) := by
  cases kind <;> rfl

theorem digits_of_mem_motionNumerals (kind : MoveKind) :
    ∀ digits ∈ motionNumerals kind, digits ≠ [] ∧ ∀ d ∈ digits, d = '0' ∨ d = '1' := by
  cases kind <;> simp [motionNumerals]

theorem value_of_mem_motionNumerals (kind : MoveKind) :
    ∀ digits ∈ motionNumerals kind,
      ∃ v ∈ (Numeral.mk false digits []).value?, v ≠ 21 ∧ v ≠ 20 := by
  cases kind <;> decide

/-- A motion word with digits is a `G` before one of the numerals. -/
theorem exists_digits_of_mem_codes {kind : MoveKind} {token : List Char}
    (h : upper token ∈ codes kind) :
    ∃ g digits, token = g :: digits ∧ g.toUpper = 'G' ∧ digits ∈ motionNumerals kind := by
  rw [codes_eq_map] at h
  obtain ⟨digits, hdigits, hspelling⟩ := List.mem_map.1 h
  obtain ⟨g, tail, rfl, hg, htail⟩ := List.map_eq_cons_iff.1 hspelling.symm
  -- The numerals are spelled without letters, so the token has the digits themselves.
  have hself : ∀ c ∈ tail, c.toUpper = id c := by
    intro c hc
    have hmem : c.toUpper ∈ digits := htail ▸ List.mem_map_of_mem hc
    obtain hzero | hone := (digits_of_mem_motionNumerals kind digits hdigits).2 _ hmem
    · rw [hzero, eq_of_toUpper_eq (by decide) hzero]
      rfl
    · rw [hone, eq_of_toUpper_eq (by decide) hone]
      rfl
  rw [List.map_congr_left hself, List.map_id] at htail
  exact ⟨g, tail, rfl, hg, htail ▸ hdigits⟩

/-- A motion word with digits is a word by itself. -/
theorem scan_code {kind : MoveKind} {g : Char} {digits rest : List Char} (hg : g.toUpper = 'G')
    (hdigits : digits ∈ motionNumerals kind)
    (hrest : ∀ c ∈ rest.head?, isBlank c = true ∨ isAsciiLetter c = true) :
    ∃ v, v ≠ 21 ∧ v ≠ 20 ∧ Word.scan (g :: digits ++ rest) = ⟨'G', v⟩ :: Word.scan rest := by
  obtain ⟨hne, hdigit⟩ := digits_of_mem_motionNumerals kind digits hdigits
  obtain ⟨v, hv, hmm, hinch⟩ := value_of_mem_motionNumerals kind digits hdigits
  have hascii : ∀ c ∈ digits, isAsciiDigit c = true := by
    intro c hc
    obtain rfl | rfl := hdigit c hc <;> decide
  have hpassed : ∀ c ∈ digits, ¬ Word.isAddress c = true := by
    intro c hc
    obtain rfl | rfl := hdigit c hc <;> decide
  -- Neither a blank nor a letter goes on with the numeral.
  have hstop : ∀ c ∈ rest.head?, isDecimalDigit c = false ∧ c ≠ '.' := by
    intro c hc
    obtain hblank | hletter := hrest c hc
    · refine ⟨isDecimalDigit_of_isBlank hblank, ?_⟩
      rintro rfl
      exact absurd hblank (by decide)
    · have haddress : Word.isAddress c = true := by simp [Word.isAddress, hletter]
      refine ⟨Bool.eq_false_iff.2 fun h => Word.not_isAddress_of_isDecimalDigit h haddress, ?_⟩
      rintro rfl
      exact absurd hletter (by decide)
  have haddress : Word.isAddress g := Word.isAddress_of_toUpper (by rw [hg]; decide)
  have hword : Word.ofNumeral? g ⟨false, digits, []⟩ = some ⟨'G', v⟩ := by
    rw [Word.ofNumeral?, Option.mem_def.1 hv, hg]
    rfl
  refine ⟨v, hmm, hinch, ?_⟩
  rw [List.cons_append, Word.scan_cons_of_isAddress haddress,
    Word.numeralAfter?_digits hne hascii hstop, Word.scan_append_of_not_isAddress hpassed]
  show (Word.ofNumeral? g _).toList ++ _ = _
  rw [hword]
  rfl

theorem mem_valuesOf_iff {w : Word} {cs : List Char} :
    w.value ∈ valuesOf w.address (Word.scan cs) ↔ w.StandsIn cs := by
  simp only [valuesOf, List.mem_map, List.mem_filter, beq_iff_eq, ← Word.mem_scan_iff]
  constructor
  · rintro ⟨⟨address, value⟩, ⟨hw, rfl⟩, rfl⟩
    exact hw
  · intro hw
    exact ⟨w, ⟨hw, rfl⟩, rfl⟩

instance (w : Word) (cs : List Char) : Decidable (w.StandsIn cs) :=
  decidable_of_iff (∃ v ∈ valuesOf w.address (Word.scan cs), v = w.value) <| by
    rw [exists_eq_right, mem_valuesOf_iff]

/-- **The motion word of a line asks for no unit.** -/
theorem Opens.standsIn_iff {kind : MoveKind} {rest body : List Char} (h : Opens kind rest body)
    {v : Float} (hv : v = 21 ∨ v = 20) :
    Word.StandsIn ⟨'G', v⟩ body ↔ Word.StandsIn ⟨'G', v⟩ rest := by
  cases h with
  | name htoken hrest =>
    have hnone : 'G' ∉ Block.name kind := by cases kind <;> decide
    rw [← mem_valuesOf_iff, valuesOf_scan_append (htoken ▸ hnone), mem_valuesOf_iff]
  | code htoken hrest =>
    obtain ⟨g, digits, rfl, hg, hdigits⟩ := exists_digits_of_mem_codes htoken
    obtain ⟨u, hmm, hinch, hscan⟩ := scan_code hg hdigits hrest
    have hne : Word.mk 'G' v ≠ ⟨'G', u⟩ := by
      intro heq
      obtain rfl := (Word.mk.inj heq).2
      exact hv.elim hmm hinch
    rw [← Word.mem_scan_iff, hscan, List.mem_cons, or_iff_right hne, Word.mem_scan_iff]

end Block

/-! ### Directives -/

namespace LengthUnit

/-- The value of the `G` word that asks for the unit. -/
def code? : LengthUnit → Option Float
  | .millimetre => some 21
  | .inch => some 20
  | .unknown => none

/-- A list of directives settles on a unit if it holds no other. -/
theorem ofDirectives_eq_iff (ds : List LengthUnit) :
    (ofDirectives ds = .millimetre ↔ .millimetre ∈ ds ∧ .inch ∉ ds) ∧
      (ofDirectives ds = .inch ↔ .inch ∈ ds ∧ .millimetre ∉ ds) ∧
      (ofDirectives ds = .unknown ↔ (.millimetre ∈ ds ↔ .inch ∈ ds)) := by
  unfold ofDirectives
  by_cases hmm : .millimetre ∈ ds <;> by_cases hinch : .inch ∈ ds <;> simp [hmm, hinch]

end LengthUnit

namespace Block

theorem directive?_eq_some_iff {w : Word} {u : LengthUnit} :
    directive? w = some u ↔ w.address = 'G' ∧ w.value ∈ u.code? := by
  have hmm : (w.value == 21.0) = true ↔ w.value = 21 :=
    Double.beq_iff_eq_of_isOrdinary (b := 21.0) (by decide)
  have hinch : (w.value == 20.0) = true ↔ w.value = 20 :=
    Double.beq_iff_eq_of_isOrdinary (b := 20.0) (by decide)
  -- The two codes are told apart by equality of doubles, which here is equality.
  have hdiffer : (21 : Float) ≠ 20 := by decide
  unfold directive?
  rw [Option.ite_none_left_eq_some, bne_iff_ne, not_not]
  refine and_congr_right fun _ => ?_
  split
  · rename_i h21
    rw [hmm] at h21
    cases u <;> simp [LengthUnit.code?, h21, hdiffer.symm]
  · rename_i h21
    rw [hmm] at h21
    split
    · rename_i h20
      rw [hinch] at h20
      cases u <;> simp [LengthUnit.code?, h20, hdiffer]
    · rename_i h20
      rw [hinch] at h20
      cases u <;> simp [LengthUnit.code?, Ne.symm h20, Ne.symm h21]

/-- The line gives the value to the address, in a word outside comments. A line that is blank or
opens with a comment gives nothing. -/
def Gives (line : List Char) (address : Char) (v : Float) : Prop :=
  ∃ body, HasBody line body ∧ Word.StandsIn ⟨address, v⟩ body

instance (line : List Char) (address : Char) (v : Float) : Decidable (Gives line address v) :=
  decidable_of_iff (∃ body ∈ body? line, Word.StandsIn ⟨address, v⟩ body) <| by
    simp only [Option.mem_def, body?_eq_some_iff]
    rfl

theorem gives_iff {line body : List Char} (hbody : HasBody line body) {address : Char} {v : Float} :
    Gives line address v ↔ Word.StandsIn ⟨address, v⟩ body := by
  constructor
  · rintro ⟨body', hbody', hstands⟩
    obtain rfl : body = body' :=
      Option.some.inj ((body?_eq_some_iff.2 hbody).symm.trans (body?_eq_some_iff.2 hbody'))
    exact hstands
  · intro hstands
    exact ⟨body, hbody, hstands⟩

theorem mem_directives_iff {body : List Char} {u : LengthUnit} :
    u ∈ directives body ↔ ∃ v ∈ u.code?, Word.StandsIn ⟨'G', v⟩ body := by
  simp only [directives, List.mem_filterMap, directive?_eq_some_iff, ← Word.mem_scan_iff]
  constructor
  · rintro ⟨⟨address, v⟩, hw, rfl, hvalue⟩
    exact ⟨v, hvalue, hw⟩
  · rintro ⟨v, hvalue, hw⟩
    exact ⟨⟨'G', v⟩, hw, rfl, hvalue⟩

end Block

namespace Toolpath

/-- Some line of the text gives the value to the address. -/
def Gives (text : String) (address : Char) (v : Float) : Prop :=
  ∃ line ∈ lines text.toList, Block.Gives line address v

instance (text : String) (address : Char) (v : Float) : Decidable (Gives text address v) :=
  inferInstanceAs (Decidable (∃ line ∈ lines text.toList, Block.Gives line address v))

/-- A text holds the directives whose words it gives. -/
theorem mem_directives_iff {text : String} {u : LengthUnit} :
    u ∈ (bodies text.toList).flatMap Block.directives ↔ ∃ v ∈ u.code?, Gives text 'G' v := by
  simp only [bodies, List.mem_flatMap, List.mem_filterMap, Block.body?_eq_some_iff,
    Block.mem_directives_iff]
  constructor
  · rintro ⟨body, ⟨line, hline, hbody⟩, v, hv, hgives⟩
    exact ⟨v, hv, line, hline, body, hbody, hgives⟩
  · rintro ⟨v, hv, line, hline, body, hbody, hgives⟩
    exact ⟨body, ⟨line, hline, hbody⟩, v, hv, hgives⟩

/-- The unit of a text by the words that it gives. -/
theorem unit_eq_iff (text : String) :
    ((interpret text).unit = .millimetre ↔ Gives text 'G' 21 ∧ ¬ Gives text 'G' 20) ∧
      ((interpret text).unit = .inch ↔ Gives text 'G' 20 ∧ ¬ Gives text 'G' 21) ∧
      ((interpret text).unit = .unknown ↔ (Gives text 'G' 21 ↔ Gives text 'G' 20)) := by
  have hunit := LengthUnit.ofDirectives_eq_iff ((bodies text.toList).flatMap Block.directives)
  simp only [mem_directives_iff, LengthUnit.code?, Option.mem_some_iff, exists_eq_left'] at hunit
  exact hunit

/-- Texts that give the same of the two words have the same unit. -/
theorem unit_congr {s t : String} (h : ∀ v, v = 21 ∨ v = 20 → (Gives s 'G' v ↔ Gives t 'G' v)) :
    (interpret s).unit = (interpret t).unit := by
  obtain ⟨hmm, hinch, hunknown⟩ := unit_eq_iff s
  rw [h 21 (.inl rfl), h 20 (.inr rfl)] at hmm hinch hunknown
  obtain ⟨hmm', hinch', hunknown'⟩ := unit_eq_iff t
  cases ht : (interpret t).unit with
  | millimetre => exact hmm.2 (hmm'.1 ht)
  | inch => exact hinch.2 (hinch'.1 ht)
  | unknown => exact hunknown.2 (hunknown'.1 ht)

/-! ### The order of the lines -/

theorem gives_of_perm {s t : String} (h : (lines s.toList).Perm (lines t.toList)) (address : Char)
    (v : Float) : Gives s address v ↔ Gives t address v := by
  simp only [Gives, h.mem_iff]

theorem feedDeclared_of_perm {s t : String} (h : (lines s.toList).Perm (lines t.toList)) :
    (interpret s).feedDeclared = (interpret t).feedDeclared := by
  have hmotions : (motions s).Perm (motions t) := by
    rw [motions_eq_filterMap, motions_eq_filterMap]
    exact h.filterMap _
  rw [feedDeclared_interpret, feedDeclared_interpret, hmotions.any_eq, hmotions.any_eq]

/-- What a text gives it also gives when it goes on. -/
theorem Gives.append {a : String} {address : Char} {v : Float} (h : Gives a address v)
    (b : String) : Gives (a ++ "\n" ++ b) address v := by
  obtain ⟨line, hline, hgives⟩ := h
  refine ⟨line, ?_, hgives⟩
  rw [lines_toList_append]
  exact List.mem_append_left _ hline

/-- **Unit detection is presence only.** The unit of a text is the millimetre if some line gives a
`G` word of value 21 and none gives one of value 20, the inch if it is the other way round, and
otherwise unknown. So lines may change places, which is no matter to the declared feed rate either;
texts that give the same of the two words have the same unit, whether a motion word stands before
the words or not; and a text with both has no unit, whatever lines are appended. -/
theorem unit_detection :
    (∀ text,
        ((interpret text).unit = .millimetre ↔ Gives text 'G' 21 ∧ ¬ Gives text 'G' 20) ∧
        ((interpret text).unit = .inch ↔ Gives text 'G' 20 ∧ ¬ Gives text 'G' 21) ∧
        ((interpret text).unit = .unknown ↔ (Gives text 'G' 21 ↔ Gives text 'G' 20))) ∧
      (∀ s t, (lines s.toList).Perm (lines t.toList) →
        (interpret s).unit = (interpret t).unit ∧
          (interpret s).feedDeclared = (interpret t).feedDeclared) ∧
      (∀ s t, (∀ v, v = 21 ∨ v = 20 → (Gives s 'G' v ↔ Gives t 'G' v)) →
        (interpret s).unit = (interpret t).unit) ∧
      (∀ line body kind rest v, Block.HasBody line body → Block.Opens kind rest body →
        v = 21 ∨ v = 20 → (Block.Gives line 'G' v ↔ Word.StandsIn ⟨'G', v⟩ rest)) ∧
      ∀ a b, Gives a 'G' 21 → Gives a 'G' 20 → (interpret (a ++ "\n" ++ b)).unit = .unknown := by
  refine ⟨unit_eq_iff, ?_, fun s t h => unit_congr h, ?_, ?_⟩
  · intro s t h
    exact ⟨unit_congr fun v _ => gives_of_perm h 'G' v, feedDeclared_of_perm h⟩
  · intro line body kind rest v hbody hopens hv
    rw [Block.gives_iff hbody, hopens.standsIn_iff hv]
  · intro a b hmm hinch
    exact (unit_eq_iff _).2.2.2 ⟨fun _ => hinch.append b, fun _ => hmm.append b⟩

/-- A text with its unit on a motion line, packed between other words. -/
def packed : String := "G1X5g +21.0Y2\nG1 X7 F100 (G20)"

/-- The same lines the other way round. -/
def packedReversed : String := "G1 X7 F100 (G20)\nG1X5g +21.0Y2"

/-- A text with both directives. -/
def ambiguous : String := "G20 G1\nG0G21X1"

/-- The unit of the first text is found in any order of its lines and would be without its motion
words; that of the other is past finding. -/
theorem packed_unit :
    (interpret packed).unit = .millimetre ∧
      (interpret packedReversed).unit = (interpret packed).unit ∧
      (interpret packedReversed).feedDeclared = (interpret packed).feedDeclared ∧
      (interpret "G21").unit = (interpret packed).unit ∧
      Word.StandsIn ⟨'G', 21⟩ "X5g +21.0Y2".toList ∧
      (interpret (ambiguous ++ "\n" ++ "G21")).unit = .unknown := by
  obtain ⟨hunit, hperm, hwords, hmotion, happend⟩ := unit_detection
  have hgives : ∀ v, v = 21 ∨ v = 20 → (Gives "G21" 'G' v ↔ Gives packed 'G' v) := by
    rintro v (rfl | rfl) <;> decide +kernel
  have hswap : (lines packedReversed.toList).Perm (lines packed.toList) := by decide +kernel
  have hbody : Block.HasBody "G1X5g +21.0Y2".toList "G1X5g +21.0Y2".toList :=
    Block.body?_eq_some_iff.1 (by decide +kernel)
  have hopens : Block.Opens .feed "X5g +21.0Y2".toList "G1X5g +21.0Y2".toList :=
    Block.splitMotion?_eq_some_iff.1 (by decide +kernel)
  exact ⟨(hunit packed).1.2 (by decide +kernel), (hperm _ _ hswap).1, (hperm _ _ hswap).2,
    hwords _ _ hgives, (hmotion _ _ _ _ _ hbody hopens (.inl rfl)).1 (by decide +kernel),
    happend _ _ (by decide +kernel) (by decide +kernel)⟩

end Toolpath

end MachiningViewer
