import MachiningViewer.Text.Utf8
import Mathlib.Data.List.Basic

/-!
# Decoding UTF-8

What is encoded is decoded again (`decodePart_encode`): the first byte of a character tells how many
follow, and those keep to the ranges (`exists_front`).

Decoding does not depend on how the bytes are cut into pieces (`decodePart_append`). A character
that is seen is there for good, whatever comes behind it, so decoding may go on from where it
stopped when there are more bytes.
-/

namespace MachiningViewer.Text.Utf8

/-! ### Pieces -/

theorem fit_append {ranges : List Range} {bytes kept : List UInt8}
    (h : fit ranges bytes = (kept, .whole)) (more : List UInt8) :
    fit ranges (bytes ++ more) = (kept, .whole) := by
  -- Each range takes one byte, so what lies behind the bytes of the character is not looked at.
  induction ranges generalizing bytes kept with
  | nil => exact h
  | cons r rs ih =>
    cases bytes with
    | nil => cases h
    | cons b bs =>
      rw [fit] at h
      rw [List.cons_append, fit]
      split at h
      · rename_i hb
        cases hfit : fit rs bs with
        | mk kept' outcome =>
          rw [hfit] at h
          obtain ⟨rfl, rfl⟩ := Prod.mk.inj h
          rw [if_pos hb, ih hfit]
      · cases h

theorem front_append {lead : UInt8} {rest : List UInt8} {c : Char} {n : Nat}
    (h : front lead rest = .character c n) (more : List UInt8) :
    n ≤ rest.length ∧ front lead (rest ++ more) = .character c n := by
  unfold front at h ⊢
  -- The lead byte alone decides how many bytes follow and in which ranges.
  cases hranges : followers lead with
  | none =>
    rw [hranges] at h
    cases h
  | some ranges =>
    rw [hranges] at h
    simp only at h ⊢
    split at h
    · rename_i kept hfit
      cases h
      have hkept := fit_prefix ranges rest
      rw [hfit] at hkept
      rw [fit_append hfit]
      exact ⟨hkept.length_le, rfl⟩
    · cases h
    · cases h

theorem decodePart_cons {lead : UInt8} {rest : List UInt8} {c : Char} {n : Nat}
    (h : front lead rest = .character c n) :
    decodePart (lead :: rest) =
      (c :: (decodePart (rest.drop n)).1, (decodePart (rest.drop n)).2) := by
  rw [decodePart, h]

theorem decodePart_stuck {lead : UInt8} {rest : List UInt8}
    (h : ∀ c n, front lead rest ≠ .character c n) :
    decodePart (lead :: rest) = ([], lead :: rest) := by
  rw [decodePart]
  split
  · rename_i c n hfront
    exact absurd hfront (h c n)
  · rfl

/-- **Decoding in pieces.** What is decoded stays, and decoding goes on with what was left. -/
theorem decodePart_append (bytes more : List UInt8) :
    decodePart (bytes ++ more) =
      ((decodePart bytes).1 ++ (decodePart ((decodePart bytes).2 ++ more)).1,
        (decodePart ((decodePart bytes).2 ++ more)).2) := by
  fun_induction decodePart bytes with
  | case1 => rfl
  | case2 lead rest c n hfront cs remainder hrest ih =>
    obtain ⟨hn, hmore⟩ := front_append hfront more
    rw [List.cons_append, decodePart_cons hmore, List.drop_append_of_le_length hn, ih, hrest]
    rfl
  | case3 lead rest hstuck => rfl

/-- What is left when decoding stops is nothing that decoding could begin with. -/
theorem decodePart_remainder (bytes : List UInt8) :
    decodePart (decodePart bytes).2 = ([], (decodePart bytes).2) := by
  fun_induction decodePart bytes with
  | case1 => rw [decodePart]
  | case2 lead rest c n hfront cs remainder hrest ih =>
    rw [hrest] at ih
    exact ih
  | case3 lead rest hstuck => exact decodePart_stuck fun c n => hstuck c n

/-! ### What is encoded -/

/-- A character that is whole is seen, whatever comes behind it. -/
theorem front_of_fit {lead : UInt8} {ranges : List Range} {following : List UInt8} {n : ℕ}
    (hlead : followers lead = some ranges) (hfit : fit ranges following = (following, .whole))
    (hvalue : following.foldl (fun n b => n * 0x40 + b.toNat % 0x40)
      (leadBits following.length lead) = n) (rest : List UInt8) :
    front lead (following ++ rest) = .character (Char.ofNat n) following.length := by
  unfold front
  rw [hlead]
  simp only [fit_append hfit rest, assemble, hvalue]

theorem fit_cons {r : Range} {rs : List Range} {b : UInt8} {bs : List UInt8}
    (hb : inRange r b = true) (hbs : fit rs bs = (bs, .whole)) :
    fit (r :: rs) (b :: bs) = (b :: bs, .whole) := by
  rw [fit, if_pos hb, hbs]

theorem inRange_ofNat {low high n : ℕ} (hlow : low ≤ n) (hhigh : n ≤ high) (h : high < 256) :
    inRange (UInt8.ofNat low, UInt8.ofNat high) (UInt8.ofNat n) = true := by
  simp only [inRange, Bool.and_eq_true, decide_eq_true_eq, UInt8.le_iff_toNat_le,
    UInt8.toNat_ofNat']
  omega

/-- Six bits in a byte that continues a character. -/
theorem inRange_tail (n : ℕ) : inRange tail (UInt8.ofNat (n % 64 + 0x80)) = true :=
  @inRange_ofNat 0x80 0xBF _ (by omega) (by omega) (by omega)

theorem followers_two : ∀ n : Fin 32, 2 ≤ n → followers (UInt8.ofNat (n + 0xC0)) = some [tail] := by
  decide +kernel

theorem followers_three : ∀ n : Fin 16, followers (UInt8.ofNat (n + 0xE0)) =
    some [if n = 0 then (0xA0, 0xBF) else if n = 13 then (0x80, 0x9F) else tail, tail] := by
  decide +kernel

theorem followers_four : ∀ n : Fin 5, followers (UInt8.ofNat (n + 0xF0)) =
    some [if n = 0 then (0x90, 0xBF) else if n = 4 then (0x80, 0x8F) else tail, tail, tail] := by
  decide +kernel

theorem front_two {n : ℕ} (h : 0x80 ≤ n) (h' : n < 0x800) (rest : List UInt8) :
    front (UInt8.ofNat (n / 64 % 32 + 0xC0)) (UInt8.ofNat (n % 64 + 0x80) :: rest) =
      .character (Char.ofNat n) 1 := by
  have hlead := followers_two ⟨n / 64 % 32, by omega⟩ (by simp [Fin.le_def]; omega)
  refine front_of_fit hlead (fit_cons (inRange_tail n) rfl) ?_ rest
  simp only [List.foldl_cons, List.foldl_nil, List.length_singleton, leadBits, UInt8.toNat_ofNat']
  omega

theorem front_three {n : ℕ} (h : 0x800 ≤ n) (h' : n < 0x10000) (hvalid : n < 0xD800 ∨ 0xDFFF < n)
    (rest : List UInt8) :
    front (UInt8.ofNat (n / 4096 % 16 + 0xE0))
        (UInt8.ofNat (n / 64 % 64 + 0x80) :: UInt8.ofNat (n % 64 + 0x80) :: rest) =
      .character (Char.ofNat n) 2 := by
  have hlead := followers_three ⟨n / 4096 % 16, by omega⟩
  refine front_of_fit hlead (fit_cons ?_ (fit_cons (inRange_tail n) rfl)) ?_ rest
  · -- The ranges leave out what has a shorter spelling, and the surrogates.
    split
    · rename_i hzero
      have hzero : n / 4096 % 16 = 0 := congrArg Fin.val hzero
      exact @inRange_ofNat 0xA0 0xBF _ (by omega) (by omega) (by omega)
    · split
      · rename_i hlast
        have hlast : n / 4096 % 16 = 13 := congrArg Fin.val hlast
        exact @inRange_ofNat 0x80 0x9F _ (by omega) (by omega) (by omega)
      · exact inRange_tail (n / 64)
  · simp only [List.foldl_cons, List.foldl_nil, List.length_cons, List.length_nil, leadBits,
      UInt8.toNat_ofNat']
    omega

theorem front_four {n : ℕ} (h : 0x10000 ≤ n) (h' : n < 0x110000) (rest : List UInt8) :
    front (UInt8.ofNat (n / 262144 % 8 + 0xF0))
        (UInt8.ofNat (n / 4096 % 64 + 0x80) :: UInt8.ofNat (n / 64 % 64 + 0x80) ::
          UInt8.ofNat (n % 64 + 0x80) :: rest) = .character (Char.ofNat n) 3 := by
  have hlead := followers_four ⟨n / 262144 % 8, by omega⟩
  refine front_of_fit hlead
    (fit_cons ?_ (fit_cons (inRange_tail (n / 64)) (fit_cons (inRange_tail n) rfl))) ?_ rest
  · -- The ranges leave out what has a shorter spelling, and what is beyond the last character.
    split
    · rename_i hzero
      have hzero : n / 262144 % 8 = 0 := congrArg Fin.val hzero
      exact @inRange_ofNat 0x90 0xBF _ (by omega) (by omega) (by omega)
    · split
      · rename_i hlast
        have hlast : n / 262144 % 8 = 4 := congrArg Fin.val hlast
        exact @inRange_ofNat 0x80 0x8F _ (by omega) (by omega) (by omega)
      · exact inRange_tail (n / 4096)
  · simp only [List.foldl_cons, List.foldl_nil, List.length_cons, List.length_nil, leadBits,
      UInt8.toNat_ofNat']
    omega

/-- **A character that is encoded is seen.** -/
theorem exists_front (c : Char) : ∃ lead following,
    String.utf8EncodeChar c = lead :: following ∧
      ∀ rest, front lead (following ++ rest) = .character c following.length := by
  have hvalid : c.val.toNat < 0xD800 ∨ 0xDFFF < c.val.toNat ∧ c.val.toNat < 0x110000 := c.valid
  have hchar : Char.ofNat c.val.toNat = c := Char.ofNat_toNat c
  rw [String.utf8EncodeChar]
  -- One byte, two, three or four.
  split
  · rename_i h
    refine ⟨_, [], rfl, fun rest => ?_⟩
    have hlead : UInt8.ofNat c.val.toNat < 0x80 := by
      rw [UInt8.lt_iff_toNat_lt, UInt8.toNat_ofNat']
      exact Nat.lt_of_le_of_lt (Nat.mod_le ..) (Nat.lt_succ_of_le h)
    rw [List.nil_append, front_of_ascii hlead, UInt8.toNat_ofNat', Nat.mod_eq_of_lt (by omega),
      hchar]
    rfl
  · split
    · have hfront := @front_two c.val.toNat (by omega) (by omega)
      rw [hchar] at hfront
      exact ⟨_, [_], rfl, hfront⟩
    · split
      · have hfront := @front_three c.val.toNat (by omega) (by omega) (by omega)
        rw [hchar] at hfront
        exact ⟨_, [_, _], rfl, hfront⟩
      · have hfront := @front_four c.val.toNat (by omega) (by omega)
        rw [hchar] at hfront
        exact ⟨_, [_, _, _], rfl, hfront⟩

theorem encode_eq (cs : List Char) :
    encode (String.ofList cs) = cs.flatMap String.utf8EncodeChar :=
  List.toList_data_toByteArray

/-- **What is encoded is decoded again.** -/
theorem decodePart_encode (cs : List Char) : decodePart (encode (String.ofList cs)) = (cs, []) := by
  rw [encode_eq]
  induction cs with
  | nil => rw [List.flatMap_nil, decodePart]
  | cons c cs ih =>
    obtain ⟨lead, following, hc, hfront⟩ := exists_front c
    rw [List.flatMap_cons, hc, List.cons_append, decodePart_cons (hfront _), List.drop_left, ih]

end MachiningViewer.Text.Utf8
