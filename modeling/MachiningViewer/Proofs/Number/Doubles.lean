import MachiningViewer.Toolpath.Word
import Mathlib

/-!
# Doubles as numbers

Every double but NaN is a number, and the numbers are in order. The order is seen on a double's
parts: the infinities stand outside, then comes the sign, then the exponent, then the mantissa, so a
double has a rank in a lexicographic order (`rank`), and comparing numbers is comparing their ranks
(`le_iff`, `lt_iff`). That makes the order of the numbers total and transitive, whereas nothing
compares to NaN.

What is written as a numeral is a number, though it may be an infinite one (`isNaN_of_value?`): of
all that happens on the way to the double, only dividing by a zero or by an infinity, or multiplying
one by the other, could yield NaN, and the powers of ten that a numeral is scaled by are neither.

A number that is neither zero nor infinite has parts of its own, so asking whether a double is equal
to it is asking whether the double is the number itself (`beq_iff_eq_of_isOrdinary`).
-/

namespace MachiningViewer.Double

open Float.Model (UnpackedFloat Format)
open Float.Model.UnpackedFloat

/-! ### Order -/

/-- Where an unpacked double stands among the others. NaN has no place of its own. -/
def rankOf : UnpackedFloat → ℤ ×ₗ ℤ ×ₗ ℤ
  | .infinity .negative => toLex (-2, toLex (0, 0))
  | .finite .negative m e _ => toLex (-1, toLex (-e, -m))
  | .zero _ | .notANumber => toLex (0, toLex (0, 0))
  | .finite .positive m e _ => toLex (1, toLex (e, m))
  | .infinity .positive => toLex (2, toLex (0, 0))

/-- Where a double stands among the others. -/
def rank (x : Float) : ℤ ×ₗ ℤ ×ₗ ℤ :=
  rankOf x.toModel.unpack

theorem compare_natCast (m n : ℕ) : compare (m : ℤ) n = compare m n := by
  rw [← cmp_eq_compare, ← cmp_eq_compare]
  exact Int.natCast_strictMono.cmp_map_eq m n

theorem compare_neg (a b : ℤ) : compare (-a) (-b) = (compare a b).swap := by
  have hanti : StrictAnti fun a : ℤ => -a := fun _ _ h => Int.neg_lt_neg h
  rw [← cmp_eq_compare, ← cmp_eq_compare, cmp_swap]
  exact hanti.cmp_map_eq a b

/-- Comparing numbers is comparing ranks. -/
theorem compare_eq {a b : UnpackedFloat} (ha : a.isNaN = false) (hb : b.isNaN = false) :
    a.compare b = some (compare (rankOf a) (rankOf b)) := by
  rcases a with (_ | _) | _ | _ | ⟨_ | _, m, e, _⟩ <;>
    rcases b with (_ | _) | _ | _ | ⟨_ | _, m', e', _⟩
  case finite.negative.finite.negative =>
    show some _ = some ((compare (-e) (-e')).then (compare (-(m : ℤ)) (-m')))
    rw [compare_neg, compare_neg, compare_natCast, Ordering.swap_then]
  case finite.positive.finite.positive =>
    show some _ = some ((compare e e').then (compare (m : ℤ) m'))
    rw [compare_natCast]
  -- In the other cases one of the two is NaN, or the kinds of double decide.
  all_goals first | rfl | exact Bool.noConfusion ha | exact Bool.noConfusion hb

/-- Nothing compares to NaN. -/
theorem compare_eq_none {a b : UnpackedFloat} (h : a.isNaN = true ∨ b.isNaN = true) :
    a.compare b = none := by
  rcases h with h | h
  · cases a <;> first | rfl | exact Bool.noConfusion h
  · cases b with
    | notANumber => cases a <;> rfl
    | infinity | zero | finite => exact Bool.noConfusion h

theorem isNaN_eq (x : Float) : x.isNaN = x.toModel.unpack.isNaN :=
  rfl

theorem le_iff {a b : Float} :
    a ≤ b ↔ a.isNaN = false ∧ b.isNaN = false ∧ rank a ≤ rank b := by
  have hle : a ≤ b ↔ (a.toModel.unpack.compare b.toModel.unpack).any (·.isLE) = true :=
    decide_eq_true_iff
  rw [hle, isNaN_eq, isNaN_eq]
  cases ha : a.toModel.unpack.isNaN with
  | true => simp [compare_eq_none (.inl ha)]
  | false =>
    cases hb : b.toModel.unpack.isNaN with
    | true => simp [compare_eq_none (.inr hb)]
    | false => simp [compare_eq ha hb, rank, ← Ordering.ne_gt_iff_isLE, compare_le_iff_le]

theorem lt_iff {a b : Float} :
    a < b ↔ a.isNaN = false ∧ b.isNaN = false ∧ rank a < rank b := by
  have hlt : a < b ↔ (a.toModel.unpack.compare b.toModel.unpack == some .lt) = true :=
    decide_eq_true_iff
  rw [hlt, isNaN_eq, isNaN_eq]
  cases ha : a.toModel.unpack.isNaN with
  | true => simp [compare_eq_none (.inl ha)]
  | false =>
    cases hb : b.toModel.unpack.isNaN with
    | true => simp [compare_eq_none (.inr hb)]
    | false => simp [compare_eq ha hb, rank, compare_lt_iff_lt]

theorem le_trans {a b c : Float} (hab : a ≤ b) (hbc : b ≤ c) : a ≤ c := by
  obtain ⟨ha, -, hrank⟩ := le_iff.1 hab
  obtain ⟨-, hc, hrank'⟩ := le_iff.1 hbc
  exact le_iff.2 ⟨ha, hc, hrank.trans hrank'⟩

/-- Of two numbers, the first is less or the second is not greater. -/
theorem not_lt_iff {a b : Float} (ha : a.isNaN = false) (hb : b.isNaN = false) :
    ¬ a < b ↔ b ≤ a := by
  rw [lt_iff, le_iff]
  constructor
  · intro hnot
    exact ⟨hb, ha, not_lt.1 fun hlt => hnot ⟨ha, hb, hlt⟩⟩
  · rintro ⟨-, -, hle⟩ ⟨-, -, hlt⟩
    exact absurd hlt (not_lt.2 hle)

theorem le_of_lt {a b : Float} (h : a < b) : a ≤ b := by
  obtain ⟨ha, hb, hrank⟩ := lt_iff.1 h
  exact le_iff.2 ⟨ha, hb, hrank.le⟩

/-! ### What is a number -/

/-- The greatest exponent is not all ones where there is one to store. -/
theorem ofNat_ne_neg_one {n k : ℕ} (h : k + 1 < 2 ^ n) : BitVec.ofNat n k ≠ -1#n := by
  intro heq
  have hval := congrArg BitVec.toNat heq
  rw [BitVec.toNat_ofNat, Nat.mod_eq_of_lt (by omega), BitVec.neg_one_eq_allOnes,
    BitVec.toNat_allOnes] at hval
  omega

/-- Only NaN is packed as NaN, with all ones for its exponent and a mantissa that is not zero. -/
theorem isNaN_pack {f : UnpackedFloat} (h : f.isNaN = false) :
    (Float.ofModel (Float.Model.pack f)).isNaN = false := by
  rw [← Bool.not_eq_true, isNaN_eq]
  intro hNaN
  have hpacked : UnpackedFloat.pack Format.binary64 f = packedNaN Format.binary64 :=
    (isNaN_unpack_iff_of_valid (Float.Model.pack f).valid).1 hNaN
  have hbits : isNaNBits (packedNaN Format.binary64) = true := isNaNBits_packedNaN
  rw [← hpacked, isNaNBits, decide_eq_true_iff] at hbits
  obtain ⟨hexp, hmantissa⟩ := hbits
  revert hexp hmantissa
  -- An infinity has a mantissa of zero, and so does what overflows; all else has a lesser exponent.
  fun_cases UnpackedFloat.pack with
  | case1 => exact Bool.noConfusion h
  | case2 s => simp [packedInfinity]
  | case3 s => simp [packedZero]
  | case4 s m e hm biased hbig => simp [packedInfinity]
  | case5 s m e hm bits biased hsmall hbits =>
    rw [unpackExponent_packComponents]
    exact fun hexp => absurd hexp (ofNat_ne_neg_one (Nat.not_le.1 hsmall))
  | case6 s m e hm bits biased hsmall hbits =>
    rw [unpackExponent_packComponents]
    exact fun hexp => absurd hexp (by decide)

theorem isNaN_roundWithAccuracy (spec : Format) (s : Sign) (m : ℕ) (e : ℤ) (accuracy : Accuracy) :
    (roundWithAccuracy spec s m e accuracy).isNaN = false := by
  unfold roundWithAccuracy
  dsimp only
  split <;> rfl

theorem isNaN_ofNat (spec : Format) (n : ℕ) : (UnpackedFloat.ofNat spec n).isNaN = false := by
  unfold UnpackedFloat.ofNat UnpackedFloat.ofInt UnpackedFloat.normalize
  split
  · exact isNaN_roundWithAccuracy ..
  · rfl
  · exact isNaN_roundWithAccuracy ..

theorem isNaN_neg {x : Float} (h : x.isNaN = false) : (-x).isNaN = false := by
  refine isNaN_pack ?_
  rw [isNaN_eq] at h
  cases hx : x.toModel.unpack with
  | notANumber => rw [hx] at h; exact Bool.noConfusion h
  | infinity | zero | finite => rfl

/-- Neither NaN nor infinite nor zero. -/
def IsOrdinary : UnpackedFloat → Bool
  | .finite .. => true
  | .infinity _ | .zero _ | .notANumber => false

/-- A number divided by one that is neither zero nor infinite is a number. -/
theorem isNaN_div {x y : Float} (hx : x.isNaN = false) (hy : IsOrdinary y.toModel.unpack = true) :
    (x / y).isNaN = false := by
  refine isNaN_pack ?_
  rw [isNaN_eq] at hx
  cases hb : y.toModel.unpack with
  | notANumber | infinity | zero => rw [hb] at hy; exact Bool.noConfusion hy
  | finite s m e hm =>
    cases ha : x.toModel.unpack with
    | notANumber => rw [ha] at hx; exact Bool.noConfusion hx
    | infinity | zero => rfl
    | finite => exact isNaN_roundWithAccuracy ..

theorem isOrdinary_powersOfTen :
    ∀ e : Fin 23, IsOrdinary Float.exactlyRepresentablePowersOfTen[e].toModel.unpack = true := by
  decide +kernel

/-- A whole number that is scaled by a power of ten is a number, even an infinite one. -/
theorem isNaN_unpackedScientific (spec : Format) (m : ℕ) (e : ℤ) :
    (UnpackedFloat.ofScientific spec m e).isNaN = false := by
  fun_cases UnpackedFloat.ofScientific with
  | case1 hm => rfl
  | case2 hm hbig => rfl
  | case3 hm hbig hsmall => rfl
  | case4 hm hbig hsmall hup => exact isNaN_roundWithAccuracy ..
  | case5 hm hbig hsmall hdown => exact isNaN_roundWithAccuracy ..

/-- A decimal fraction is a number, whether it is divided as a double or exactly. -/
theorem isNaN_ofScientific (m e : ℕ) : (Float.ofScientific m true e).isNaN = false := by
  unfold Float.ofScientific
  split
  · -- Both the number and the power of ten are doubles, so one is divided by the other.
    rename_i hexact
    have hnat : m.toUInt64.toFloat.isNaN = false := isNaN_pack (isNaN_ofNat _ _)
    exact isNaN_div hnat (isOrdinary_powersOfTen ⟨e, Nat.lt_succ_of_le hexact.2⟩)
  · exact isNaN_pack (isNaN_unpackedScientific _ _ _)

/-- **What is written as a numeral is a number.** -/
theorem isNaN_of_value? {n : Numeral} {v : Float} (h : n.value? = some v) : v.isNaN = false := by
  unfold Numeral.value? at h
  split at h
  · obtain rfl := Option.some.inj h
    split
    · exact isNaN_neg (isNaN_ofScientific _ _)
    · exact isNaN_ofScientific _ _
  · cases h

/-! ### Equality -/

theorem pack_unpack (f : Float.Model) : Float.Model.pack f.unpack = f := by
  obtain ⟨bits, hvalid⟩ := f
  have hbits : UnpackedFloat.pack Format.binary64 (unpack Format.binary64 bits.toBitVec) =
      bits.toBitVec := by
    rw [UnpackedFloat.pack_unpack]
    split
    · rename_i hNaN
      rw [isNaNBits, decide_eq_true_iff] at hNaN
      exact (hvalid.eq_packedNaN hNaN.1 hNaN.2).symm
    · rfl
  unfold Float.Model.pack
  congr 1
  exact congrArg UInt64.ofBitVec hbits

/-- A double is known by its parts. -/
theorem eq_of_unpack_eq {a b : Float} (h : a.toModel.unpack = b.toModel.unpack) : a = b := by
  have hmodel := congrArg Float.Model.pack h
  rw [pack_unpack, pack_unpack] at hmodel
  exact congrArg Float.ofModel hmodel

/-- Unpacked doubles of one rank are the same, zero apart. -/
theorem eq_of_compare_eq {a b : UnpackedFloat} (hb : IsOrdinary b = true)
    (h : a.compare b = some .eq) : a = b := by
  cases b with
  | infinity | zero | notANumber => exact Bool.noConfusion hb
  | finite s m e hm =>
    rcases a with (_ | _) | _ | _ | ⟨_ | _, m', e', hm'⟩ <;> cases s
    case finite.negative.negative =>
      have hparts : (compare e' e).then (compare m' m) = .eq := by
        rw [← Ordering.swap_eq_eq]
        exact Option.some.inj h
      obtain ⟨he, hm⟩ := Ordering.then_eq_eq.1 hparts
      obtain rfl := compare_eq_iff_eq.1 he
      obtain rfl := compare_eq_iff_eq.1 hm
      rfl
    case finite.positive.positive =>
      obtain ⟨he, hm⟩ := Ordering.then_eq_eq.1 (Option.some.inj h)
      obtain rfl := compare_eq_iff_eq.1 he
      obtain rfl := compare_eq_iff_eq.1 hm
      rfl
    -- In the other cases the kinds of double or the signs differ.
    all_goals cases h

/-- A number that is neither zero nor infinite compares as equal to itself alone. -/
theorem beq_iff_eq_of_isOrdinary {a b : Float} (hb : IsOrdinary b.toModel.unpack = true) :
    (a == b) = true ↔ a = b := by
  have hbeq : (a == b) = (a.toModel.unpack.compare b.toModel.unpack == some .eq) := rfl
  rw [hbeq, beq_iff_eq]
  constructor
  · intro h
    exact eq_of_unpack_eq (eq_of_compare_eq hb h)
  · rintro rfl
    have hnumber : a.toModel.unpack.isNaN = false := by
      cases ha : a.toModel.unpack with
      | infinity | zero | notANumber => rw [ha] at hb; exact Bool.noConfusion hb
      | finite => rfl
    rw [compare_eq hnumber hnumber, compare_eq_iff_eq.2 rfl]

end MachiningViewer.Double
