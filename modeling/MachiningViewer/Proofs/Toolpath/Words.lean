import MachiningViewer.Proofs.Toolpath.Grammar
import Mathlib.Data.List.TakeWhile

/-!
# Where the words of a text come from

A word takes an address letter and a numeral, and a numeral has no address letter in it
(`Word.takes_of_numeralAfter?`). So a search for the words of an address passes over every other
letter: the numeral that the letter may take with it hides nothing (`Block.valuesOf_scan_cons`).

A motion word therefore has no say in the feed words of its line. `F` is in none but `FEED`, and
there a letter follows it. What a line gives to `F` is what stands behind the motion word
(`Block.Opens.valuesOf_feed`).
-/

namespace MachiningViewer

open Text

/-! ### Address letters -/

namespace Word

theorem toNat_of_isAddress {c : Char} (hc : isAddress c) :
    (0x41 ≤ c.toNat ∧ c.toNat ≤ 0x5A) ∨ (0x61 ≤ c.toNat ∧ c.toNat ≤ 0x7A) ∨
      c.toNat = 0x17F ∨ c.toNat = 0x212A := by
  simp only [isAddress, isAsciiLetter, Bool.or_eq_true, Bool.and_eq_true, decide_eq_true_eq,
    beq_iff_eq] at hc
  rcases hc with ((hsmall | hcapital) | rfl) | rfl
  · exact .inr (.inl hsmall)
  · exact .inl hcapital
  · exact .inr (.inr (.inl rfl))
  · exact .inr (.inr (.inr rfl))

theorem not_isAddress_of_isBlank {c : Char} (hc : isBlank c) : ¬ isAddress c := by
  intro haddress
  have hletter := toNat_of_isAddress haddress
  simp only [isBlank, Bool.or_eq_true, Bool.and_eq_true, decide_eq_true_eq, beq_iff_eq] at hc
  omega

theorem not_isAddress_of_isDecimalDigit {c : Char} (hc : isDecimalDigit c) : ¬ isAddress c := by
  intro haddress
  have hletter := toNat_of_isAddress haddress
  unfold isDecimalDigit at hc
  split at hc
  · simp only [Bool.and_eq_true, decide_eq_true_eq] at hc
    have hnine : c.toNat ≤ 0x39 := hc.2
    omega
  · -- Of the letters beyond ASCII, neither is a digit of any script.
    obtain heq | heq : c.toNat = 0x17F ∨ c.toNat = 0x212A := by omega
    · rw [heq, ← Array.any_toList] at hc
      revert hc
      decide
    · rw [heq, ← Array.any_toList] at hc
      revert hc
      decide

theorem isAddress_of_toUpper {c : Char} (hc : isAsciiLetter c.toUpper) : isAddress c := by
  have hletter : isAsciiLetter c := by
    unfold Char.toUpper at hc
    split at hc
    · rename_i hsmall
      have hle : 'a' ≤ c ∧ c ≤ 'z' := hsmall
      simp [isAsciiLetter, hle.1, hle.2]
    · exact hc
  simp [isAddress, hletter]

/-! ### What a numeral takes -/

/-- Something is taken off the front of a text, without an address letter in it, and `rest` is left.
-/
def Takes (cs rest : List Char) : Prop :=
  ∃ taken, taken ≠ [] ∧ cs = taken ++ rest ∧ ∀ c ∈ taken, ¬ isAddress c

theorem Takes.append {front cs rest : List Char} (h : Takes cs rest)
    (hfront : ∀ c ∈ front, ¬ isAddress c) : Takes (front ++ cs) rest := by
  obtain ⟨taken, hne, rfl, htaken⟩ := h
  refine ⟨front ++ taken, by simp [hne], (List.append_assoc ..).symm, fun c hc => ?_⟩
  rcases List.mem_append.1 hc with hc | hc
  · exact hfront c hc
  · exact htaken c hc

theorem Takes.cons {c : Char} {cs rest : List Char} (h : Takes cs rest) (hc : ¬ isAddress c) :
    Takes (c :: cs) rest := by
  have hfront : ∀ d ∈ [c], ¬ isAddress d := by
    intro d hd
    rw [List.mem_singleton.1 hd]
    exact hc
  exact h.append hfront

theorem takes_of_unsigned? {negative : Bool} {cs rest : List Char} {n : Numeral}
    (h : Numeral.unsigned? negative cs = some (n, rest)) : Takes cs rest := by
  have hdigits (ds : List Char) : ∀ c ∈ ds.takeWhile isDecimalDigit, ¬ isAddress c := fun c hc =>
    not_isAddress_of_isDecimalDigit (List.mem_takeWhile_imp hc)
  have hcs := (List.takeWhile_append_dropWhile (p := isDecimalDigit) (l := cs)).symm
  unfold Numeral.unsigned? at h
  simp only at h
  split at h
  · rename_i r hpoint
    split at h
    · cases h
    · obtain ⟨-, rfl⟩ := Prod.mk.inj (Option.some.inj h)
      -- The point alone makes the rest shorter, whether or not digits follow it.
      have hfraction : Takes ('.' :: r) (r.dropWhile isDecimalDigit) := by
        refine ⟨'.' :: r.takeWhile isDecimalDigit, List.cons_ne_nil _ _, ?_, fun c hc => ?_⟩
        · rw [List.cons_append, List.takeWhile_append_dropWhile]
        · rcases List.mem_cons.1 hc with rfl | hc
          · decide
          · exact hdigits r c hc
      rw [hcs, hpoint]
      exact hfraction.append (hdigits cs)
  · split at h
    · cases h
    · rename_i hwhole
      obtain ⟨-, rfl⟩ := Prod.mk.inj (Option.some.inj h)
      exact ⟨_, fun hnil => hwhole (List.isEmpty_iff.2 hnil), hcs, hdigits cs⟩

theorem read?_of_ne {c : Char} (hplus : c ≠ '+') (hminus : c ≠ '-') (cs : List Char) :
    Numeral.read? (c :: cs) = Numeral.unsigned? false (c :: cs) := by
  unfold Numeral.read?
  split
  · rename_i h
    exact absurd (List.cons.inj h).1 hplus
  · rename_i h
    exact absurd (List.cons.inj h).1 hminus
  · rfl

theorem takes_of_read? {cs rest : List Char} {n : Numeral}
    (h : Numeral.read? cs = some (n, rest)) : Takes cs rest := by
  unfold Numeral.read? at h
  split at h
  · exact (takes_of_unsigned? h).cons (by decide)
  · exact (takes_of_unsigned? h).cons (by decide)
  · exact takes_of_unsigned? h

/-- **No address letter is taken with a numeral**, nor with the blanks before it. -/
theorem takes_of_numeralAfter? {cs rest : List Char} {n : Numeral}
    (h : numeralAfter? cs = some (n, rest)) : Takes cs rest := by
  have hblank : ∀ c ∈ cs.takeWhile isBlank, ¬ isAddress c := fun c hc =>
    not_isAddress_of_isBlank (List.mem_takeWhile_imp hc)
  have hcs : cs.takeWhile isBlank ++ trimStart cs = cs := List.takeWhile_append_dropWhile
  exact hcs ▸ (takes_of_read? h).append hblank

/-! ### Scanning -/

theorem scan_cons_of_not_isAddress {c : Char} (hc : ¬ isAddress c) (cs : List Char) :
    scan (c :: cs) = scan cs := by
  rw [scan, if_neg hc]

theorem scan_append_of_not_isAddress {front : List Char} (hfront : ∀ c ∈ front, ¬ isAddress c)
    (cs : List Char) : scan (front ++ cs) = scan cs := by
  induction front with
  | nil => rfl
  | cons c front ih =>
    rw [List.cons_append, scan_cons_of_not_isAddress (hfront c List.mem_cons_self),
      ih fun d hd => hfront d (List.mem_cons_of_mem c hd)]

/-- An address letter takes the numeral behind it, if there is one, and the search goes on as if
neither were there. -/
theorem scan_cons_of_isAddress {c : Char} (hc : isAddress c) (cs : List Char) :
    scan (c :: cs) =
      ((numeralAfter? cs).bind fun (n, _) => ofNumeral? c n).toList ++ scan cs := by
  rw [scan, if_pos hc]
  split
  · rename_i n rest h
    obtain ⟨taken, -, hcs, htaken⟩ := takes_of_numeralAfter? h
    have hskip : scan cs = scan rest := by rw [hcs, scan_append_of_not_isAddress htaken]
    show (ofNumeral? c n).toList ++ scan rest = _
    rw [h, hskip]
    rfl
  · rename_i h
    rw [h]
    rfl

/-- No numeral opens with an address letter. -/
theorem numeralAfter?_of_isAddress {c : Char} (hc : isAddress c) (cs : List Char) :
    numeralAfter? (c :: cs) = none := by
  cases h : numeralAfter? (c :: cs) with
  | none => rfl
  | some found =>
    obtain ⟨taken, hne, hcs, htaken⟩ := takes_of_numeralAfter? h
    obtain ⟨d, taken, rfl⟩ := List.exists_cons_of_ne_nil hne
    obtain ⟨rfl, -⟩ := List.cons.inj hcs
    exact absurd hc (htaken c List.mem_cons_self)

/-- A character before an address letter makes no word. -/
theorem scan_cons_cons {d : Char} (hd : isAddress d) (c : Char) (cs : List Char) :
    scan (c :: d :: cs) = scan (d :: cs) := by
  by_cases hc : isAddress c
  · rw [scan_cons_of_isAddress hc, numeralAfter?_of_isAddress hd]
    rfl
  · exact scan_cons_of_not_isAddress hc _

end Word

namespace Block

theorem valuesOf_append (address : Char) (words words' : List Word) :
    valuesOf address (words ++ words') = valuesOf address words ++ valuesOf address words' := by
  rw [valuesOf, List.filter_append, List.map_append]
  rfl

theorem valuesOf_eq_nil {address : Char} {words : List Word}
    (h : ∀ w ∈ words, w.address ≠ address) : valuesOf address words = [] := by
  have hnone : words.filter (·.address == address) = [] :=
    List.filter_eq_nil_iff.2 fun w hw => by simpa using h w hw
  rw [valuesOf, hnone]
  rfl

/-- **Every other letter is passed over** in a search for the words of an address. -/
theorem valuesOf_scan_cons {address c : Char} (hc : c.toUpper ≠ address) (cs : List Char) :
    valuesOf address (Word.scan (c :: cs)) = valuesOf address (Word.scan cs) := by
  by_cases hletter : Word.isAddress c
  · rw [Word.scan_cons_of_isAddress hletter, valuesOf_append, valuesOf_eq_nil, List.nil_append]
    intro w hw
    obtain ⟨⟨n, rest⟩, -, hnumeral⟩ := Option.bind_eq_some_iff.1 (Option.mem_toList.1 hw)
    obtain ⟨v, -, rfl⟩ := Option.map_eq_some_iff.1 hnumeral
    exact hc
  · rw [Word.scan_cons_of_not_isAddress hletter]

theorem valuesOf_scan_append {address : Char} {token : List Char} (htoken : address ∉ upper token)
    (rest : List Char) :
    valuesOf address (Word.scan (token ++ rest)) = valuesOf address (Word.scan rest) := by
  induction token with
  | nil => rfl
  | cons c token ih =>
    obtain ⟨hc, htoken⟩ := not_or.1 (mt List.mem_cons.2 htoken)
    rw [List.cons_append, valuesOf_scan_cons (Ne.symm hc), ih htoken]

/-- **The feed words of a line stand behind its motion word.** -/
theorem Opens.valuesOf_feed {kind : MoveKind} {rest body : List Char} (h : Opens kind rest body) :
    valuesOf 'F' (Word.scan body) = valuesOf 'F' (Word.scan rest) := by
  cases h with
  | @name token htoken hrest =>
    cases kind with
    | rapid =>
      refine valuesOf_scan_append ?_ rest
      rw [htoken]
      decide
    | feed =>
      -- The letter behind the `F` keeps it from being the address of a word.
      obtain ⟨f, more, rfl, -, hmore⟩ := List.map_eq_cons_iff.1 htoken
      obtain ⟨e, token, rfl, he, -⟩ := List.map_eq_cons_iff.1 hmore
      have hletter : Word.isAddress e := Word.isAddress_of_toUpper (by rw [he]; decide)
      have hnone : 'F' ∉ upper (e :: token) := by
        rw [upper, hmore]
        decide
      have hskip := Word.scan_cons_cons hletter f (token ++ rest)
      exact (congrArg (valuesOf 'F') hskip).trans (valuesOf_scan_append hnone rest)
  | @code token htoken hrest =>
    have hnone : ∀ spelling ∈ codes kind, 'F' ∉ spelling := by cases kind <;> decide
    exact valuesOf_scan_append (hnone _ htoken) rest

end Block

end MachiningViewer
