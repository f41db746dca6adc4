import MachiningViewer.Proofs.Number.Rounding

/-!
# Reading decimal fractions

A decimal fraction is read as the double nearest to it (`isRounding_ofScientific`), however many
digits it has. If its digits make a number that is a double, and so does the power of ten below them
(`IsExactly`), then one is divided by the other, and a quotient of doubles is rounded once
(`isRounding_div`). If not, whole numbers of any length are divided, far enough for the mantissa and
with the rest told by the bits behind it (`exists_roundsTo_div`).
-/

namespace MachiningViewer.Double

open Float.Model (UnpackedFloat Format totalExponent)
open Float.Model.UnpackedFloat

/-! ### Products and quotients -/

/-- A double that stands for a number as it is. -/
def IsExactly (s : Sign) (magnitude : ℚ) (x : Float) : Prop :=
  signOf? x.toModel.unpack = some s ∧ number? x = some (signed s magnitude)

theorem signed_inj {s : Sign} {p q : ℚ} (h : signed s p = signed s q) : p = q := by
  rw [← signed_signed s p, h, signed_signed]

/-- The parts of a number that is not zero. -/
theorem IsExactly.exists_finite {s : Sign} {q : ℚ} {x : Float} (h : IsExactly s q x)
    (hq : q ≠ 0) : ∃ m e hm, x.toModel.unpack = .finite s m e hm ∧ q = m * 2 ^ e := by
  obtain ⟨hsign, hnumber⟩ := h
  unfold number? at hnumber
  cases hx : x.toModel.unpack with
  | infinity | notANumber => rw [hx] at hnumber; cases hnumber
  | zero s' =>
    rw [hx] at hnumber
    -- A zero has the value zero, which `q` is not.
    have hzero : signed s q = signed s 0 := by
      rw [← Option.some.inj hnumber]
      cases s <;> simp [signed]
    exact absurd (signed_inj hzero) hq
  | finite s' m e hm =>
    rw [hx] at hsign hnumber
    obtain rfl := Option.some.inj hsign
    exact ⟨m, e, hm, rfl, (signed_inj (Option.some.inj hnumber)).symm⟩

theorem IsExactly.eq_zero {s : Sign} {x : Float} (h : IsExactly s 0 x) :
    x.toModel.unpack = .zero s := by
  obtain ⟨hsign, hnumber⟩ := h
  unfold number? at hnumber
  cases hx : x.toModel.unpack with
  | infinity | notANumber => rw [hx] at hnumber; cases hnumber
  | zero s' =>
    rw [hx] at hsign
    rw [Option.some.inj hsign]
  | finite s' m e hm =>
    rw [hx] at hsign hnumber
    obtain rfl := Option.some.inj hsign
    have hzero : (m : ℚ) * 2 ^ e = 0 := signed_inj (Option.some.inj hnumber)
    have hpos : (0 : ℚ) < m * 2 ^ e := mul_pos (by exact_mod_cast hm) (zpow_pos two_pos e)
    exact absurd hzero hpos.ne'

/-- What is less than half the least double is rounded to zero. -/
theorem roundsTo_zero {q : ℚ} (hnonneg : 0 ≤ q) (hlt : q < 2 ^ (-1075 : ℤ)) :
    RoundsTo q 0 (-1074) := by
  have hhalf : q / 2 ^ (-1074 : ℤ) < 1 / 2 := by
    rw [div_lt_iff₀ (zpow_pos two_pos _)]
    refine hlt.trans_eq ?_
    rw [show (-1075 : ℤ) = -1074 - 1 by norm_num, zpow_sub_one₀ two_ne_zero]
    ring
  have habs : |q / 2 ^ (-1074 : ℤ) - (0 : ℕ)| < 1 / 2 := by
    rw [Nat.cast_zero, sub_zero, abs_of_nonneg (by positivity)]
    exact hhalf
  refine ⟨le_rfl, hlt.trans ?_, .inl rfl, habs.le, fun heq => absurd heq habs.ne⟩
  exact zpow_lt_zpow_right₀ one_lt_two (by norm_num)

theorem isRounding_zero (s : Sign) : IsRounding s 0 (Float.ofModel (Float.Model.pack (.zero s))) :=
  isRounding_carried s (roundsTo_zero le_rfl (zpow_pos two_pos _))

theorem log2_shiftLeft {m : ℕ} (hm : 0 < m) (k : ℕ) : (m <<< k).log2 = m.log2 + k := by
  rw [Nat.shiftLeft_eq, Nat.log2_eq_iff (by positivity), add_right_comm, pow_add, pow_add]
  constructor
  · exact Nat.mul_le_mul_right _ (Nat.log2_self_le hm.ne')
  · exact Nat.mul_lt_mul_of_pos_right Nat.lt_log2_self (Nat.two_pow_pos k)

/-- A quotient is divided far enough to be rounded. -/
theorem exists_roundsTo_div (s : Sign) {m₁ m₂ : ℕ} (e₁ e₂ : ℤ) (hm₁ : 0 < m₁) (hm₂ : 0 < m₂) :
    ∃ r t, RoundsTo (m₁ * 2 ^ e₁ / (m₂ * 2 ^ e₂)) r t ∧
      (let (m, e, accuracy) := divCore .binary64 m₁ e₁ m₂ e₂
       roundWithAccuracy .binary64 s m e accuracy) = carried s r t := by
  unfold divCore
  dsimp only
  obtain ⟨e, he⟩ : ∃ e, e = min (e₁ - e₂) (Format.binary64.targetExponent
    (totalExponent m₁ e₁ - totalExponent m₂ e₂)) := ⟨_, rfl⟩
  rw [← he]
  have htarget : e = min (e₁ - e₂)
      (max ((m₁.log2 + 1 + e₁) - (m₂.log2 + 1 + e₂) - 53) (-1074)) := he
  obtain ⟨m, hm⟩ : ∃ m, m = m₁ <<< (e₁ - e₂ - e).toNat := ⟨_, rfl⟩
  rw [← hm]
  have hpos : (0 : ℚ) < m₂ := by exact_mod_cast hm₂
  have hvalue : (m₁ : ℚ) * 2 ^ e₁ / (m₂ * 2 ^ e₂) = m / m₂ * 2 ^ e := by
    rw [hm, Nat.shiftLeft_eq]
    push_cast
    rw [← zpow_natCast (2 : ℚ), Int.toNat_of_nonneg (by omega), zpow_sub₀ two_ne_zero,
      zpow_sub₀ two_ne_zero]
    have h₁ := (zpow_pos (two_pos (α := ℚ)) e).ne'
    have h₂ := (zpow_pos (two_pos (α := ℚ)) e₂).ne'
    field_simp
  -- The dividend was shifted far enough for the quotient to keep 53 bits, unless the least exponent
  -- stopped it.
  have henough : e ≤ max (((m / m₂).log2 : ℤ) + e - 52) (-1074) := by
    by_cases hleast : e ≤ -1074
    · exact le_max_of_le_right hleast
    · have hlog : m.log2 = m₁.log2 + (e₁ - e₂ - e).toNat := by
        rw [hm, log2_shiftLeft hm₁]
      have hle : 2 ^ 52 ≤ m / m₂ := by
        rw [Nat.le_div_iff_mul_le hm₂]
        calc 2 ^ 52 * m₂ ≤ 2 ^ 52 * 2 ^ (m₂.log2 + 1) := by
              gcongr
              exact Nat.lt_log2_self.le
          _ = 2 ^ (m₂.log2 + 53) := by rw [← pow_add]; congr 1; omega
          _ ≤ 2 ^ m.log2 := Nat.pow_le_pow_right two_pos (by omega)
          _ ≤ m := Nat.log2_self_le (by rw [hm, Nat.shiftLeft_eq]; positivity)
      have hquotient : 52 ≤ (m / m₂).log2 := (Nat.le_log2 (by omega)).2 hle
      omega
  rw [hvalue]
  exact exists_roundsTo s (represents_quotient m hm₂) henough

/-- **A quotient is the double nearest to the exact one.** -/
theorem isRounding_div {s s' : Sign} {p q : ℚ} {x y : Float} (hx : IsExactly s p x)
    (hy : IsExactly s' q y) (hq : q ≠ 0) : IsRounding (s / s') (p / q) (x / y) := by
  obtain ⟨m', e', hm', hdivisor, rfl⟩ := hy.exists_finite hq
  have hdiv : x / y = Float.ofModel (Float.Model.pack
      (UnpackedFloat.div .binary64 x.toModel.unpack y.toModel.unpack)) := rfl
  rw [hdiv, hdivisor]
  rcases eq_or_ne p 0 with rfl | hp
  · rw [hx.eq_zero, zero_div]
    exact isRounding_zero (s / s')
  · obtain ⟨m, e, hm, hdividend, rfl⟩ := hx.exists_finite hp
    obtain ⟨r, t, hrounds, heq⟩ := exists_roundsTo_div (s / s') e e' hm hm'
    rw [hdividend]
    exact isRounding_pack hrounds heq

theorem exists_roundsTo_exact (s : Sign) {m : ℕ} {e : ℤ} (h : e ≤ -1074 ∨ 2 ^ 52 ≤ m) :
    ∃ r t, RoundsTo (m * 2 ^ e) r t ∧ roundWithAccuracy .binary64 s m e .exact = carried s r t := by
  refine exists_roundsTo s (represents_exact m) ?_
  rcases h with hle | hfull
  · exact le_max_of_le_right hle
  · have hlog : 52 ≤ m.log2 := (Nat.le_log2 (by omega)).2 hfull
    omega

/-- **A product is the double nearest to the exact one.** -/
theorem isRounding_mul {s s' : Sign} {p q : ℚ} {x y : Float} (hx : IsExactly s p x)
    (hy : IsExactly s' q y) : IsRounding (s * s') (p * q) (x * y) := by
  have hmul : x * y = Float.ofModel (Float.Model.pack
      (UnpackedFloat.mul .binary64 x.toModel.unpack y.toModel.unpack)) := rfl
  rw [hmul]
  rcases eq_or_ne p 0 with rfl | hp
  · rw [hx.eq_zero, zero_mul]
    rcases eq_or_ne q 0 with rfl | hq
    · rw [hy.eq_zero]
      exact isRounding_zero (s * s')
    · obtain ⟨m', e', hm', hfactor', rfl⟩ := hy.exists_finite hq
      rw [hfactor']
      exact isRounding_zero (s * s')
  · obtain ⟨m, e, hm, hfactor, rfl⟩ := hx.exists_finite hp
    rw [hfactor]
    rcases eq_or_ne q 0 with rfl | hq
    · rw [hy.eq_zero, mul_zero]
      exact isRounding_zero (s * s')
    · obtain ⟨m', e', hm', hfactor', rfl⟩ := hy.exists_finite hq
      obtain ⟨-, -, -, hnormal⟩ := unpack_bounds hfactor
      obtain ⟨-, -, -, hnormal'⟩ := unpack_bounds hfactor'
      -- One factor that fills its mantissa fills that of the product.
      have henough : e + e' ≤ -1074 ∨ 2 ^ 52 ≤ m * m' := by
        rcases hnormal with rfl | hfull
        · rcases hnormal' with rfl | hfull'
          · left
            norm_num
          · exact .inr (hfull'.trans (Nat.le_mul_of_pos_left m' hm))
        · exact .inr (hfull.trans (Nat.le_mul_of_pos_right m hm'))
      have hvalue : (m : ℚ) * 2 ^ e * (m' * 2 ^ e') = (m * m' : ℕ) * 2 ^ (e + e') := by
        rw [zpow_add₀ two_ne_zero]
        push_cast
        ring
      obtain ⟨r, t, hrounds, heq⟩ := exists_roundsTo_exact (s * s') henough
      rw [hfactor', hvalue]
      exact isRounding_pack hrounds heq

/-! ### Whole numbers -/

theorem exists_roundsTo_ofNat (n : ℕ) :
    ∃ r t, RoundsTo n r t ∧ UnpackedFloat.ofNat .binary64 n = carried .positive r t := by
  rcases Nat.eq_zero_or_pos n with rfl | hn
  · rw [Nat.cast_zero]
    exact ⟨0, -1074, roundsTo_zero le_rfl (zpow_pos two_pos _), rfl⟩
  · have hcompare : compare (n : ℤ) 0 = .gt := compare_gt_iff_gt.2 (by exact_mod_cast hn)
    obtain ⟨k, hk⟩ : ∃ k, k = (0 - max ((n.log2 : ℤ) + 0 - 52) (-1074)).toNat := ⟨_, rfl⟩
    have hround : UnpackedFloat.ofNat .binary64 n =
        roundWithAccuracy .binary64 .positive (n <<< k) (0 - k) .exact := by
      unfold UnpackedFloat.ofNat ofInt UnpackedFloat.normalize
      rw [hcompare, hk, ← targetExponent_eq]
      rfl
    -- The shift of the integer is exact, and puts it on a grid no coarser than its target's.
    have henough : (0 - k : ℤ) ≤ max (((n <<< k).log2 : ℤ) + (0 - k) - 52) (-1074) := by
      rw [log2_shiftLeft hn]
      omega
    have hvalue : ((n <<< k : ℕ) : ℚ) * 2 ^ (0 - k : ℤ) = n := by
      rw [Nat.shiftLeft_eq, zero_sub, zpow_neg, zpow_natCast]
      push_cast
      rw [mul_inv_cancel_right₀ (by positivity)]
    rw [hround, ← hvalue]
    exact exists_roundsTo .positive (represents_exact (n <<< k)) henough

/-- All that fits into 64 bits is within reach. -/
theorem lt_beyond {q : ℚ} (h : q < 2 ^ 64) : q < beyond := by
  have hstep : (2 : ℚ) ^ (12 : ℤ) ≤ 2 ^ (971 : ℤ) := zpow_le_zpow_right₀ one_le_two (by norm_num)
  calc q < (2 ^ 53 - 1 / 2) * 2 ^ (12 : ℤ) := h.trans_le (by norm_num)
    _ ≤ beyond := mul_le_mul_of_nonneg_left hstep (by norm_num)

/-- A whole number with no more digits than a mantissa is a double. -/
theorem isExactly_toFloat {n : ℕ} (hn : n < 2 ^ 53) : IsExactly .positive n n.toUInt64.toFloat := by
  have hnat : n.toUInt64.toNat = n := UInt64.toNat_ofNat_of_lt' (hn.trans (by decide))
  have hfloat : n.toUInt64.toFloat =
      Float.ofModel (Float.Model.pack (UnpackedFloat.ofNat .binary64 n.toUInt64.toNat)) := rfl
  obtain ⟨r, t, hrounds, heq⟩ := exists_roundsTo_ofNat n
  have hbelow : (n : ℚ) < beyond := lt_beyond (by exact_mod_cast hn.trans (by decide))
  -- A whole number below `2 ^ 53` is its own competitor, so the rounding is at distance zero.
  have hexact : (r : ℚ) * 2 ^ t = n := by
    have hle := (hrounds.dist_le (k := n) (e := 0) (by rw [Nat.abs_cast]; exact_mod_cast hn)
      (by norm_num)).1
    rw [zpow_zero, mul_one, Int.cast_natCast, sub_self, abs_zero, abs_nonpos_iff,
      sub_eq_zero] at hle
    exact hle.symm
  rw [hfloat, hnat, heq]
  refine ⟨signOf?_pack_carried _ hrounds, ?_⟩
  rw [← hexact]
  exact numberOf?_pack_carried _ hrounds hbelow

/-- Is this ten to the power of `n`? -/
def IsTenTo (n : ℕ) : UnpackedFloat → Bool
  | .finite .positive m e _ => -52 ≤ e && m * 2 ^ (e + 52).toNat == 10 ^ n * 2 ^ 52
  | _ => false

theorem isTenTo_powersOfTen :
    ∀ n : Fin 23, IsTenTo n Float.exactlyRepresentablePowersOfTen[n].toModel.unpack = true := by
  decide +kernel

theorem isExactly_of_isTenTo {n : ℕ} {x : Float} (h : IsTenTo n x.toModel.unpack = true) :
    IsExactly .positive (10 ^ n) x := by
  unfold IsExactly number?
  cases hx : x.toModel.unpack with
  | infinity | notANumber | zero => rw [hx] at h; cases h
  | finite s m e hm =>
    rw [hx] at h
    cases s with
    | negative => cases h
    | positive =>
      simp only [IsTenTo, Bool.and_eq_true, decide_eq_true_eq, beq_iff_eq] at h
      refine ⟨rfl, congrArg some ?_⟩
      have hcast : (m : ℚ) * 2 ^ (e + 52).toNat = 10 ^ n * 2 ^ 52 := by exact_mod_cast h.2
      rw [← zpow_natCast, Int.toNat_of_nonneg (by omega), zpow_add₀ two_ne_zero,
        ← mul_assoc] at hcast
      exact mul_right_cancel₀ (by positivity) hcast

/-! ### Decimal fractions -/

theorem isRounding_infinity {s : Sign} {q : ℚ} (h : beyond ≤ q) :
    IsRounding s q (Float.ofModel (Float.Model.pack (.infinity s))) := by
  refine ⟨?_, fun _ => ?_, fun hlt => absurd h (not_le.2 hlt)⟩
  · show signOf? (Float.Model.pack (.infinity s)).unpack = some s
    rw [unpack_pack_infinity]
    rfl
  · show (Float.Model.pack (.infinity s)).unpack.isInf = true
    rw [unpack_pack_infinity]
    rfl

theorem beyond_le {m : ℕ} (hm : 0 < m) {e : ℤ} (he : 1024 ≤ e) : beyond ≤ m * 10 ^ e := by
  have hm' : (1 : ℚ) ≤ m := by exact_mod_cast hm
  calc beyond ≤ 2 ^ 53 * 2 ^ (971 : ℤ) :=
        mul_le_mul_of_nonneg_right (by norm_num) (zpow_pos two_pos _).le
    _ = 2 ^ (971 + (53 : ℕ) : ℤ) := (two_zpow_add 53 971).symm
    _ ≤ 2 ^ e := zpow_le_zpow_right₀ one_le_two (by omega)
    _ ≤ 10 ^ e := zpow_le_zpow_left₀ (by omega) (by norm_num) (by norm_num)
    _ ≤ m * 10 ^ e := le_mul_of_one_le_left (zpow_pos (by norm_num) e).le hm'

theorem mul_zpow_lt {m : ℕ} {k : ℕ} (hk : 1075 + m.log2 < k) :
    (m : ℚ) * 10 ^ (-k : ℤ) < 2 ^ (-1075 : ℤ) := by
  have hm : (m : ℚ) < 2 ^ (m.log2 + 1) := by exact_mod_cast Nat.lt_log2_self
  have hpower : (10 : ℚ) ^ (-k : ℤ) ≤ 2 ^ (-k : ℤ) := by
    rw [zpow_neg, zpow_neg, zpow_natCast, zpow_natCast]
    exact inv_anti₀ (by positivity) (by gcongr; norm_num)
  calc (m : ℚ) * 10 ^ (-k : ℤ) ≤ m * 2 ^ (-k : ℤ) := by gcongr
    _ < 2 ^ (m.log2 + 1) * 2 ^ (-k : ℤ) := by gcongr
    _ = 2 ^ (-k + (m.log2 + 1 : ℕ) : ℤ) := (two_zpow_add _ _).symm
    _ ≤ 2 ^ (-1075 : ℤ) := zpow_le_zpow_right₀ one_le_two (by omega)

/-- **A whole number that is scaled by a power of ten is rounded once.** Very large powers are not
gone through, but what comes out is the same. -/
theorem isRounding_unpackedScientific (m : ℕ) (e : ℤ) :
    IsRounding .positive (m * 10 ^ e)
      (Float.ofModel (Float.Model.pack (UnpackedFloat.ofScientific .binary64 m e))) := by
  fun_cases UnpackedFloat.ofScientific with
  | case1 hzero =>
    rw [hzero, Nat.cast_zero, zero_mul]
    exact isRounding_zero .positive
  | case2 hm hbig =>
    -- So large a power of ten is beyond every double, whatever its mantissa.
    replace hbig : (2048 : ℤ) < e := hbig
    exact isRounding_infinity (beyond_le (Nat.pos_of_ne_zero hm) (by omega))
  | case3 hm hbig hsmall =>
    -- So small a power of ten rounds to zero.
    replace hsmall : e < -(2048 + (m.log2 : ℤ)) := hsmall
    obtain ⟨k, rfl⟩ : ∃ k : ℕ, e = -k := ⟨(-e).toNat, by omega⟩
    exact isRounding_carried .positive (roundsTo_zero (by positivity) (mul_zpow_lt (by omega)))
  | case4 hm hbig hsmall hup =>
    -- Multiplied by `2 ^ 53` first, so that the 53 bits are there before the rounding.
    have hfull : 2 ^ 52 ≤ (m <<< 53) * 10 ^ e.toNat := by
      rw [Nat.shiftLeft_eq]
      calc 2 ^ 52 ≤ 1 * 2 ^ 53 * 1 := by norm_num
        _ ≤ m * 2 ^ 53 * 10 ^ e.toNat := by
          gcongr
          · exact Nat.pos_of_ne_zero hm
          · exact Nat.one_le_pow _ _ (by norm_num)
    have hvalue : (m : ℚ) * (10 : ℚ) ^ e = ((m <<< 53) * 10 ^ e.toNat : ℕ) * 2 ^ (-53 + 0 : ℤ) := by
      rw [Nat.shiftLeft_eq]
      push_cast
      rw [← zpow_natCast (10 : ℚ), Int.toNat_of_nonneg hup]
      norm_num
      ring
    obtain ⟨r, t, hrounds, heq⟩ := exists_roundsTo_exact (e := -53 + 0) .positive (.inr hfull)
    rw [hvalue]
    exact isRounding_pack hrounds heq
  | case5 hm hbig hsmall hdown =>
    -- A negative power of ten divides, and the quotient carries its own accuracy.
    obtain ⟨r, t, hrounds, heq⟩ := exists_roundsTo_div .positive 0 0 (Nat.pos_of_ne_zero hm)
      (Nat.pow_pos (n := (-e).toNat) (show 0 < 10 by decide))
    have hvalue : (m : ℚ) * 10 ^ e = m * 2 ^ (0 : ℤ) / ((10 ^ (-e).toNat : ℕ) * 2 ^ (0 : ℤ)) := by
      push_cast
      rw [← zpow_natCast (10 : ℚ), Int.toNat_of_nonneg (by omega), zpow_neg, mul_one, mul_one,
        div_inv_eq_mul]
    rw [hvalue]
    exact isRounding_pack hrounds heq

/-- **A decimal fraction is read as the double nearest to it.** -/
theorem isRounding_ofScientific (m e : ℕ) :
    IsRounding .positive (m / 10 ^ e) (Float.ofScientific m true e) := by
  unfold Float.ofScientific
  split
  · rename_i hsmall
    have hpower := isExactly_of_isTenTo (isTenTo_powersOfTen ⟨e, Nat.lt_succ_of_le hsmall.2⟩)
    exact isRounding_div (isExactly_toFloat hsmall.1) hpower (by positivity)
  · have h := isRounding_unpackedScientific m (Int.negOfNat e)
    rw [Int.negOfNat_eq, Int.ofNat_eq_natCast, zpow_neg, zpow_natCast, ← div_eq_mul_inv] at h
    exact h

theorem isRounding_float_ofNat (n : ℕ) : IsRounding .positive n (Float.ofNat n) := by
  show IsRounding .positive n (Float.ofScientific n false 0)
  unfold Float.ofScientific
  split
  · rename_i hsmall
    have hpower := isExactly_of_isTenTo (isTenTo_powersOfTen 0)
    have h := isRounding_mul (isExactly_toFloat hsmall.1) hpower
    rw [Fin.val_zero, pow_zero, mul_one] at h
    exact h
  · have h := isRounding_unpackedScientific n 0
    rw [zpow_zero, mul_one] at h
    exact h

end MachiningViewer.Double
