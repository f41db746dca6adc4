import MachiningViewer.Proofs.Number.Doubles

/-!
# Rounding to doubles

The result of an operation on doubles is the double nearest to the exact result (`IsRounding`): of
two that are equally near, the one with an even mantissa, and an infinity from halfway beyond the
greatest double on.

The operations work on a mantissa with two more bits behind it, the round bit and the sticky bit.
They tell whether what has been cut off is nothing, less than half a step, half a step or more
(`Represents`), and a shift to the right keeps them true. So the first shift of a rounding brings
the number to the grid of the doubles about it, and the whole number of steps that comes nearest is
taken (`RoundsTo`). It may have one digit too many for a mantissa; it is a power of two then, and a
second shift loses nothing (`carried`).

No double off that grid is nearer, for those on a finer one are all below (`RoundsTo.dist_le`). And
what a number is rounded to can be stored exactly if the number is less than `beyond`
(`RoundsTo.lt_beyond_iff`). So what is stored is what was rounded to, or an infinity where it should
be (`isRounding_carried`).
-/

namespace MachiningViewer.Double

open Float.Model (UnpackedFloat Format totalExponent)
open Float.Model.UnpackedFloat

/-! ### The number that a double is -/

/-- A magnitude with a sign. -/
def signed (s : Sign) (q : ℚ) : ℚ :=
  match s with
  | .negative => -q
  | .positive => q

/-- The number that an unpacked double stands for, if it is finite. -/
def numberOf? : UnpackedFloat → Option ℚ
  | .infinity _ | .notANumber => none
  | .zero _ => some 0
  | .finite s m e _ => some (signed s (m * 2 ^ e))

/-- The sign of all but NaN. -/
def signOf? : UnpackedFloat → Option Sign
  | .notANumber => none
  | .infinity s | .zero s | .finite s _ _ _ => some s

/-- Is the last digit of the mantissa a zero? -/
def EndsEven : UnpackedFloat → Prop
  | .finite _ m _ _ => Even m
  | .infinity _ | .notANumber | .zero _ => True

/-- The number that a double stands for, if it is finite. -/
def number? (x : Float) : Option ℚ :=
  numberOf? x.toModel.unpack

/-- Halfway from the greatest double to the next power of two, which is no double any more. -/
def beyond : ℚ :=
  (2 ^ 53 - 1 / 2) * 2 ^ (971 : ℤ)

/-- **The double nearest to a number**, given by its sign and its magnitude. Halfway between two, it
is the one with an even mantissa, and from halfway beyond the greatest on it is infinite. Zero has a
sign too. -/
structure IsRounding (s : Sign) (magnitude : ℚ) (x : Float) : Prop where
  sign : signOf? x.toModel.unpack = some s
  infinite : beyond ≤ magnitude → x.isInf = true
  nearest : magnitude < beyond → ∃ v, number? x = some v ∧ ∀ y w, number? y = some w →
    |signed s magnitude - v| ≤ |signed s magnitude - w| ∧
      (|signed s magnitude - v| = |signed s magnitude - w| → v = w ∨ EndsEven x.toModel.unpack)

theorem abs_signed_sub (s : Sign) (p q : ℚ) : |signed s p - q| = |p - signed s q| := by
  cases s with
  | negative => rw [← abs_neg]; exact congrArg _ (by simp only [signed]; ring)
  | positive => rfl

@[simp]
theorem signed_signed (s : Sign) (q : ℚ) : signed s (signed s q) = q := by
  cases s with
  | negative => exact neg_neg q
  | positive => rfl

/-! ### Round and sticky bits -/

/-- What a mantissa with a round bit and a sticky bit says of the number it was cut from. -/
def Represents (em : ExtendedMantissa) (x : ℚ) : Prop :=
  match em.roundBit, em.stickyBit with
  | false, false => x = em.mantissa
  | false, true => em.mantissa < x ∧ x < em.mantissa + 1 / 2
  | true, false => x = em.mantissa + 1 / 2
  | true, true => em.mantissa + 1 / 2 < x ∧ x < em.mantissa + 1

namespace Represents

variable {em : ExtendedMantissa} {x : ℚ}

theorem bounds (h : Represents em x) : em.mantissa ≤ x ∧ x < em.mantissa + 1 := by
  obtain ⟨m, round, sticky⟩ := em
  cases round <;> cases sticky <;> simp only [Represents] at h <;> constructor <;> linarith

/-- The last digit becomes the round bit, and what stood behind it is remembered in the sticky bit.
-/
theorem shiftRightOne (h : Represents em x) : Represents em.shiftRightOne (x / 2) := by
  obtain ⟨m, round, sticky⟩ := em
  have hm : (m : ℚ) = 2 * (m / 2 : ℕ) + (m % 2 : ℕ) := by
    exact_mod_cast (Nat.div_add_mod m 2).symm
  -- The bit shifted out becomes the round bit and the old round bit joins the sticky one, so each
  -- of the eight cases is linear in `x`.
  rcases Nat.mod_two_eq_zero_or_one m with hlast | hlast <;> rw [hlast] at hm
  · have hbit : (m % 2 != 0) = false := by rw [hlast]; rfl
    cases round <;> cases sticky <;>
      simp only [Represents, ExtendedMantissa.shiftRightOne, hbit, hm, Bool.or_true,
        Bool.or_false] at h ⊢ <;>
      push_cast at h <;> first | linarith | (constructor <;> linarith)
  · have hbit : (m % 2 != 0) = true := by rw [hlast]; rfl
    cases round <;> cases sticky <;>
      simp only [Represents, ExtendedMantissa.shiftRightOne, hbit, hm, Bool.or_true,
        Bool.or_false] at h ⊢ <;>
      push_cast at h <;> first | linarith | (constructor <;> linarith)

theorem shiftRight (h : Represents em x) (n : ℕ) : Represents (em >>> n) (x / 2 ^ n) := by
  induction n with
  | zero => rwa [pow_zero, div_one]
  | succ n ih =>
    rw [pow_succ, ← div_div]
    exact ih.shiftRightOne

/-- A mantissa is rounded to the nearest whole number, and to an even one halfway between two. -/
theorem near (h : Represents em x) :
    |x - em.roundedMantissa| ≤ 1 / 2 ∧
      (|x - em.roundedMantissa| = 1 / 2 → Even em.roundedMantissa) := by
  obtain ⟨m, round, sticky⟩ := em
  cases round <;> cases sticky <;> simp only [Represents] at h
  case false.false =>
    have hzero : |x - m| = 0 := by rw [h, sub_self, abs_zero]
    refine ⟨?_, fun heq => ?_⟩
    · exact hzero.trans_le (by norm_num)
    · exact absurd (hzero.symm.trans heq) (by norm_num)
  case false.true =>
    have hlt : |x - m| < 1 / 2 := by rw [abs_lt]; constructor <;> linarith
    exact ⟨hlt.le, fun heq => absurd heq hlt.ne⟩
  case true.false =>
    -- Halfway, the mantissa goes up if it is odd.
    have hrounded : (⟨m, true, false⟩ : ExtendedMantissa).roundedMantissa = m + m % 2 := rfl
    rw [hrounded, h]
    rcases Nat.mod_two_eq_zero_or_one m with hlast | hlast <;> rw [hlast] <;> push_cast
    · refine ⟨by norm_num, fun _ => Nat.even_iff.2 hlast⟩
    · refine ⟨by norm_num, fun _ => ?_⟩
      exact (Nat.odd_iff.2 hlast).add_odd odd_one
  case true.true =>
    have hlt : |x - (m + 1 : ℕ)| < 1 / 2 := by
      push_cast
      rw [abs_lt]
      constructor <;> linarith
    exact ⟨hlt.le, fun heq => absurd heq hlt.ne⟩

end Represents

theorem represents_exact (m : ℕ) : Represents (.ofMantissaAndAccuracy m .exact) m :=
  rfl

/-- A remainder says where a quotient lies between two whole numbers. -/
theorem represents_quotient (m : ℕ) {n : ℕ} (hn : 0 < n) :
    Represents (.ofMantissaAndAccuracy (m / n) (accuracyOfFraction (m % n) n)) (m / n) := by
  have hpos : (0 : ℚ) < n := by exact_mod_cast hn
  have hlt : ((m % n : ℕ) : ℚ) < n := by exact_mod_cast Nat.mod_lt m hn
  have hquotient : (m : ℚ) / n = (m / n : ℕ) + (m % n : ℕ) / n := by
    rw [eq_comm, ← mul_right_inj' hpos.ne', mul_add, mul_div_cancel₀ _ hpos.ne',
      mul_div_cancel₀ _ hpos.ne']
    exact_mod_cast Nat.div_add_mod m n
  have hone : ((m % n : ℕ) : ℚ) / n < 1 := (div_lt_one hpos).2 hlt
  rw [hquotient]
  unfold accuracyOfFraction
  split
  · rename_i hzero
    rw [hzero, Nat.cast_zero, zero_div, add_zero]
    exact represents_exact _
  · rename_i hne
    have hrest : (0 : ℚ) < (m % n : ℕ) / n :=
      div_pos (by exact_mod_cast Nat.pos_of_ne_zero hne) hpos
    -- Comparing twice the remainder with the divisor places the fraction below, at or above one
    -- half.
    cases hcompare : compare (2 * (m % n)) n with
    | lt =>
      have hhalf : ((m % n : ℕ) : ℚ) / n < 1 / 2 := by
        rw [div_lt_div_iff₀ hpos two_pos]
        exact_mod_cast (by have := compare_lt_iff_lt.1 hcompare; omega)
      simp only [Represents, ExtendedMantissa.ofMantissaAndAccuracy]
      constructor <;> linarith
    | eq =>
      have hhalf : ((m % n : ℕ) : ℚ) / n = 1 / 2 := by
        rw [div_eq_div_iff hpos.ne' two_ne_zero]
        exact_mod_cast (by have := compare_eq_iff_eq.1 hcompare; omega)
      rw [hhalf]
      rfl
    | gt =>
      have hhalf : 1 / 2 < ((m % n : ℕ) : ℚ) / n := by
        rw [div_lt_div_iff₀ two_pos hpos]
        exact_mod_cast (by have := compare_gt_iff_gt.1 hcompare; omega)
      simp only [Represents, ExtendedMantissa.ofMantissaAndAccuracy]
      constructor <;> linarith

/-! ### Rounding to a grid -/

/-- The doubles about `q` lie `2 ^ t` apart, and `r` steps of that length come nearest to `q`. -/
structure RoundsTo (q : ℚ) (r : ℕ) (t : ℤ) : Prop where
  least : -1074 ≤ t
  below : q < 2 ^ (t + 53)
  normal : t = -1074 ∨ 2 ^ (t + 52) ≤ q
  near : |q / 2 ^ t - r| ≤ 1 / 2
  even : |q / 2 ^ t - r| = 1 / 2 → Even r

theorem targetExponent_eq (m : ℕ) (e : ℤ) :
    Format.binary64.targetExponent (totalExponent m e) = max (m.log2 + e - 52) (-1074) := by
  have heq : Format.binary64.targetExponent (totalExponent m e) =
      max ((m.log2 : ℤ) + 1 + e - 53) (-1074) := rfl
  rw [heq]
  congr 1
  omega

/-- The first shift of a rounding brings a number to the grid of the doubles about it. -/
theorem Represents.roundsTo {m : ℕ} {accuracy : Accuracy} {x : ℚ} {e t : ℤ}
    (h : Represents (.ofMantissaAndAccuracy m accuracy) x)
    (ht : t = max ((m.log2 : ℤ) + e - 52) (-1074)) (he : e ≤ t) :
    RoundsTo (x * 2 ^ e)
      (ExtendedMantissa.ofMantissaAndAccuracy m accuracy >>> (t - e).toNat).roundedMantissa t := by
  have hmantissa : (ExtendedMantissa.ofMantissaAndAccuracy m accuracy).mantissa = m := by
    rcases accuracy with _ | (_ | _ | _) <;> rfl
  obtain ⟨hfloor, hceil⟩ := h.bounds
  rw [hmantissa] at hfloor hceil
  have hpos : (0 : ℚ) < 2 ^ e := zpow_pos two_pos e
  have hshift : x * 2 ^ e / 2 ^ t = x / 2 ^ (t - e).toNat := by
    rw [← zpow_natCast (2 : ℚ), Int.toNat_of_nonneg (by omega), zpow_sub₀ two_ne_zero,
      div_div_eq_mul_div]
  have hnear := (h.shiftRight (t - e).toNat).near
  rw [← hshift] at hnear
  refine ⟨by omega, ?_, ?_, hnear.1, hnear.2⟩
  · have hlog : x < 2 ^ (m.log2 + 1) := by
      have hlt : m + 1 ≤ 2 ^ (m.log2 + 1) := Nat.lt_log2_self
      exact hceil.trans_le (by exact_mod_cast hlt)
    calc x * 2 ^ e < 2 ^ (m.log2 + 1) * 2 ^ e := by gcongr
      _ = 2 ^ ((m.log2 : ℤ) + 1 + e) := by
        rw [zpow_add₀ two_ne_zero ((m.log2 : ℤ) + 1), ← zpow_natCast]
        rfl
      _ ≤ 2 ^ (t + 53) := zpow_le_zpow_right₀ one_le_two (by omega)
  · rcases eq_or_ne t (-1074) with hleast | hleast
    · exact .inl hleast
    · -- Above the least exponent, the mantissa fills all its digits.
      right
      have hne : m ≠ 0 := by
        rintro rfl
        rw [Nat.log2_zero] at ht
        omega
      have hlog : (2 : ℚ) ^ m.log2 ≤ m := by exact_mod_cast Nat.log2_self_le hne
      calc (2 : ℚ) ^ (t + 52) = 2 ^ m.log2 * 2 ^ e := by
            rw [← zpow_natCast, ← zpow_add₀ two_ne_zero]
            congr 1
            omega
        _ ≤ x * 2 ^ e := by gcongr; exact hlog.trans hfloor

namespace RoundsTo

variable {q : ℚ} {r : ℕ} {t : ℤ}

theorem div_lt (h : RoundsTo q r t) : q / 2 ^ t < 2 ^ 53 := by
  rw [div_lt_iff₀ (zpow_pos two_pos t), ← zpow_natCast, ← zpow_add₀ two_ne_zero, add_comm]
  exact h.below

theorem le_div (h : RoundsTo q r t) (ht : t ≠ -1074) : 2 ^ 52 ≤ q / 2 ^ t := by
  rw [le_div_iff₀ (zpow_pos two_pos t), ← zpow_natCast, ← zpow_add₀ two_ne_zero, add_comm]
  exact h.normal.resolve_left ht

/-- Among the whole numbers, `r` is the nearest. -/
theorem dist_le_intCast (h : RoundsTo q r t) (k : ℤ) :
    |q / 2 ^ t - r| ≤ |q / 2 ^ t - k| ∧
      (|q / 2 ^ t - r| = |q / 2 ^ t - k| → (r : ℚ) = k ∨ Even r) := by
  by_cases heq : (r : ℤ) = k
  · have hcast : (r : ℚ) = k := by exact_mod_cast heq
    exact ⟨(congrArg _ (by rw [hcast])).le, fun _ => .inl hcast⟩
  · have hone : (1 : ℚ) ≤ |(r : ℚ) - k| := by
      exact_mod_cast Int.one_le_abs (sub_ne_zero.2 heq)
    have htriangle := abs_sub_le (r : ℚ) (q / 2 ^ t) k
    rw [abs_sub_comm (r : ℚ) (q / 2 ^ t)] at htriangle
    have hnear := h.near
    refine ⟨by linarith, fun htie => .inr (h.even ?_)⟩
    linarith

theorem le_two_pow (h : RoundsTo q r t) : r ≤ 2 ^ 53 := by
  have hlt : (r : ℚ) < (2 ^ 53 + 1 : ℕ) := by
    have hnear := (abs_le.1 h.near).1
    have hdiv := h.div_lt
    push_cast
    linarith
  exact Nat.lt_succ_iff.1 (by exact_mod_cast hlt)

theorem two_pow_le (h : RoundsTo q r t) (ht : t ≠ -1074) : 2 ^ 52 ≤ r := by
  have hlt : ((2 ^ 52 : ℕ) : ℚ) < (r + 1 : ℕ) := by
    have hnear := (abs_le.1 h.near).2
    have hdiv := h.le_div ht
    push_cast
    linarith
  exact Nat.lt_succ_iff.1 (by exact_mod_cast hlt)

/-- **No double is nearer.** One that lies on a finer grid is below all that is about `q`. -/
theorem dist_le (h : RoundsTo q r t) {k : ℤ} {e : ℤ} (hk : |k| < 2 ^ 53) (he : -1074 ≤ e) :
    |q - r * 2 ^ t| ≤ |q - k * 2 ^ e| ∧
      (|q - r * 2 ^ t| = |q - k * 2 ^ e| → (r : ℚ) * 2 ^ t = k * 2 ^ e ∨ Even r) := by
  have hpos : (0 : ℚ) < 2 ^ t := zpow_pos two_pos t
  have hscale (y : ℚ) : |q - y * 2 ^ t| = |q / 2 ^ t - y| * 2 ^ t := by
    have hfactor : q - y * 2 ^ t = (q / 2 ^ t - y) * 2 ^ t := by
      rw [sub_mul, div_mul_cancel₀ _ hpos.ne']
    rw [hfactor, abs_mul, abs_of_pos hpos]
  have hplace : (k : ℚ) * 2 ^ e = k * 2 ^ (e - t) * 2 ^ t := by
    rw [mul_assoc, ← zpow_add₀ two_ne_zero, sub_add_cancel]
  rw [hplace, hscale, hscale, mul_le_mul_iff_left₀ hpos, mul_left_inj' hpos.ne',
    mul_left_inj' hpos.ne']
  -- On a grid at least as coarse as that of `r` the other number is a whole number of places of
  -- `r`.
  rcases le_or_gt t e with hle | hlt
  · have hwhole : (k : ℚ) * 2 ^ (e - t) = (k * 2 ^ (e - t).toNat : ℤ) := by
      push_cast
      rw [← zpow_natCast (2 : ℚ), Int.toNat_of_nonneg (by omega)]
    rw [hwhole]
    exact h.dist_le_intCast _
  · -- A finer grid is possible only above the least exponent; there `r` fills its 53 bits and the
    -- other number lies below `2 ^ 52` places, further away than `2 ^ 52` itself.
    have hleast : t ≠ -1074 := by omega
    have hy : (k : ℚ) * 2 ^ (e - t) < 2 ^ 52 := by
      have hk' : (k : ℚ) < 2 ^ 53 := by exact_mod_cast (abs_lt.1 hk).2
      calc (k : ℚ) * 2 ^ (e - t) < 2 ^ 53 * 2 ^ (e - t) := by gcongr
        _ ≤ 2 ^ 53 * 2 ^ (-1 : ℤ) := by gcongr <;> [norm_num; omega]
        _ = 2 ^ 52 := by norm_num
    have hfloor := h.le_div hleast
    have hpower := (h.dist_le_intCast (2 ^ 52)).1
    rw [Int.cast_pow, Int.cast_ofNat] at hpower
    rw [abs_of_nonneg (sub_nonneg.2 hfloor)] at hpower
    have hfar : q / 2 ^ t - k * 2 ^ (e - t) ≤ |q / 2 ^ t - k * 2 ^ (e - t)| := le_abs_self _
    refine ⟨by linarith, fun htie => ?_⟩
    linarith

end RoundsTo

/-- The double with a rounded mantissa. A mantissa that has become one digit too long is a power of
two, and its last digit goes to the exponent. -/
def carried (s : Sign) (r : ℕ) (t : ℤ) : UnpackedFloat :=
  if h : r = 0 then .zero s
  else if r < 2 ^ 53 then .finite s r t (Nat.pos_of_ne_zero h)
  else .finite s (2 ^ 52) (t + 1) (Nat.two_pow_pos 52)

theorem shiftToTargetExponent_eq {m : ℕ} {e t : ℤ} (accuracy : Accuracy)
    (ht : t = max ((m.log2 : ℤ) + e - 52) (-1074)) (he : e ≤ t) :
    shiftToTargetExponent .binary64 m e accuracy =
      (ExtendedMantissa.ofMantissaAndAccuracy m accuracy >>> (t - e).toNat, t) := by
  have htarget : Format.binary64.targetExponent (totalExponent m e) = t := by
    rw [targetExponent_eq, ht]
  have hsum : e + ((t - e).toNat : ℤ) = t := by omega
  unfold shiftToTargetExponent shiftToExponent
  dsimp only
  rw [htarget, hsum]

/-- The second shift takes a mantissa that fits as it is, and cuts a zero off one that does not. -/
theorem shift_rounded {q : ℚ} {r : ℕ} {t : ℤ} (h : RoundsTo q r t) :
    (r < 2 ^ 53 → shiftToTargetExponent .binary64 r t .exact = (⟨r, false, false⟩, t)) ∧
      (r = 2 ^ 53 →
        shiftToTargetExponent .binary64 r t .exact = (⟨2 ^ 52, false, false⟩, t + 1)) := by
  have hleast := h.least
  constructor
  · intro hlt
    have hlog : r.log2 ≤ 52 := by
      rcases Nat.eq_zero_or_pos r with rfl | hpos
      · simp
      · exact Nat.lt_succ_iff.1 ((Nat.log2_lt hpos.ne').2 hlt)
    have ht : t = max ((r.log2 : ℤ) + t - 52) (-1074) := by
      rcases eq_or_ne t (-1074) with heq | hne
      · omega
      · have hge : 52 ≤ r.log2 := by
          have htwo := h.two_pow_le hne
          exact (Nat.le_log2 (by omega)).2 htwo
        omega
    rw [shiftToTargetExponent_eq .exact ht le_rfl, sub_self]
    rfl
  · -- Rounding up to `2 ^ 53` carries into the next binade: one more shift, by a zero bit.
    rintro rfl
    have ht : t + 1 = max (((2 ^ 53 : ℕ).log2 : ℤ) + t - 52) (-1074) := by
      rw [Nat.log2_two_pow]
      omega
    rw [shiftToTargetExponent_eq .exact ht (by omega), add_sub_cancel_left]
    rfl

/-- **Rounding is exact rounding to the grid**, if it starts from digits enough. -/
theorem exists_roundsTo {m : ℕ} {accuracy : Accuracy} {x : ℚ} {e : ℤ} (s : Sign)
    (h : Represents (.ofMantissaAndAccuracy m accuracy) x)
    (he : e ≤ max ((m.log2 : ℤ) + e - 52) (-1074)) :
    ∃ r t, RoundsTo (x * 2 ^ e) r t ∧
      roundWithAccuracy .binary64 s m e accuracy = carried s r t := by
  obtain ⟨t, ht⟩ : ∃ t, t = max ((m.log2 : ℤ) + e - 52) (-1074) := ⟨_, rfl⟩
  rw [← ht] at he
  have hrounds := h.roundsTo ht he
  refine ⟨_, t, hrounds, ?_⟩
  obtain ⟨hsmall, hlarge⟩ := shift_rounded hrounds
  unfold roundWithAccuracy carried
  rw [shiftToTargetExponent_eq accuracy ht he]
  dsimp only
  generalize hr : (ExtendedMantissa.ofMantissaAndAccuracy m accuracy >>>
    (t - e).toNat).roundedMantissa = r at *
  -- The second shift, after rounding, does something only when the rounding has carried.
  rcases hrounds.le_two_pow.lt_or_eq with hlt | heq
  · rw [hsmall hlt]
    simp only [if_pos hlt]
  · rw [hlarge heq]
    subst heq
    rfl

/-! ### Storing a double -/

theorem unpackSign_packComponents {spec : Format} {s : Sign} {exponent} {mantissa} :
    Sign.ofBitVec (unpackSign (packComponents spec s exponent mantissa)) = s := by
  have hbits : unpackSign (packComponents spec s exponent mantissa) = s.toBitVec := by
    ext i hi
    obtain rfl : i = 0 := by omega
    simp [unpackSign, packComponents, BitVec.getLsbD_eq_getElem, BitVec.getLsbD_append,
      BitVec.getElem_append]
  rw [hbits]
  cases s <;> rfl

theorem exponentBias_eq : Format.binary64.exponentBias = 1023 :=
  rfl

theorem unpack_pack_infinity (s : Sign) :
    (Float.Model.pack (.infinity s)).unpack = .infinity s := by
  cases s <;> rfl

theorem unpack_pack_zero (s : Sign) : (Float.Model.pack (.zero s)).unpack = .zero s := by
  cases s <;> rfl

/-- What is beyond the greatest exponent is stored as an infinity. -/
theorem unpack_pack_overflow {s : Sign} {m : ℕ} {e : ℤ} {hm : 0 < m} (he : 972 ≤ e) :
    (Float.Model.pack (.finite s m e hm)).unpack = .infinity s := by
  have hpack : UnpackedFloat.pack .binary64 (.finite s m e hm) =
      UnpackedFloat.pack .binary64 (.infinity s) := by
    unfold UnpackedFloat.pack
    dsimp only
    rw [if_pos]
    rw [exponentBias_eq]
    omega
  rw [← unpack_pack_infinity s]
  unfold Float.Model.pack
  simp only [hpack]

/-- Of a mantissa with all its digits, the first is known and not stored. -/
theorem unpack_pack_normal {s : Sign} {m : ℕ} {e : ℤ} {hm : 0 < m} (hfull : 2 ^ 52 ≤ m)
    (hlt : m < 2 ^ 53) (hleast : -1074 ≤ e) (hgreatest : e ≤ 971) :
    (Float.Model.pack (.finite s m e hm)).unpack = .finite s m e hm := by
  have hlog : m.log2 + 1 = Format.binary64.mantissaBits :=
    congrArg (· + 1) ((Nat.log2_eq_iff hm.ne').2 ⟨hfull, hlt⟩)
  have hexponent :
      (BitVec.ofNat 11 (e + (1023 : ℕ) + (52 : ℕ)).toNat).toNat = (e + 1075).toNat := by
    rw [BitVec.toNat_ofNat, Nat.mod_eq_of_lt (by omega)]
    omega
  have hmantissa : (1#1 ++ BitVec.ofNat 52 m).toNat = m := by
    rw [BitVec.toNat_append, ← Nat.shiftLeft_add_eq_or_of_lt (BitVec.isLt _), BitVec.toNat_ofNat]
    show 2 ^ 52 + m % 2 ^ 52 = m
    omega
  show unpack .binary64 (UnpackedFloat.pack .binary64 (.finite s m e hm)) = _
  unfold UnpackedFloat.pack
  dsimp only
  rw [exponentBias_eq, if_neg (by omega), if_pos hlog]
  unfold unpack
  simp only [unpackExponent_packComponents, unpackMantissa_packComponents,
    unpackSign_packComponents, exponentBias_eq]
  rw [if_neg, if_neg]
  · simp only [hmantissa, hexponent]
    congr 1
    omega
  · -- Neither reserved exponent is met: not the one of zero and the subnormals, not that of
    -- infinity.
    intro hzero
    have hleast' := hexponent.symm.trans (congrArg BitVec.toNat hzero)
    rw [BitVec.toNat_ofNat] at hleast'
    omega
  · exact ofNat_ne_neg_one (by omega)

/-- A shorter mantissa goes with the least exponent. -/
theorem unpack_pack_subnormal {s : Sign} {m : ℕ} {hm : 0 < m} (hlt : m < 2 ^ 52) :
    (Float.Model.pack (.finite s m (-1074) hm)).unpack = .finite s m (-1074) hm := by
  have hlog : m.log2 + 1 ≠ Format.binary64.mantissaBits := by
    have hshort : m.log2 < 52 := (Nat.log2_lt hm.ne').2 hlt
    exact fun heq => hshort.ne (Nat.succ_inj.1 heq)
  have hmantissa : (BitVec.ofNat 52 m).toNat = m := by
    rw [BitVec.toNat_ofNat, Nat.mod_eq_of_lt hlt]
  show unpack .binary64 (UnpackedFloat.pack .binary64 (.finite s m (-1074) hm)) = _
  unfold UnpackedFloat.pack
  dsimp only
  rw [exponentBias_eq, if_neg (by norm_num), if_neg hlog]
  unfold unpack
  simp only [unpackExponent_packComponents, unpackMantissa_packComponents,
    unpackSign_packComponents, exponentBias_eq]
  rw [if_neg (by decide), if_pos trivial, dif_neg]
  · simp only [hmantissa]
    rfl
  · intro hzero
    exact hm.ne' (hmantissa.symm.trans (congrArg BitVec.toNat hzero))

/-- A finite double in its normal form is stored as it is. -/
theorem unpack_pack_finite {s : Sign} {m : ℕ} {e : ℤ} {hm : 0 < m} (hlt : m < 2 ^ 53)
    (hleast : -1074 ≤ e) (hgreatest : e ≤ 971) (hnormal : e = -1074 ∨ 2 ^ 52 ≤ m) :
    (Float.Model.pack (.finite s m e hm)).unpack = .finite s m e hm := by
  rcases le_or_gt (2 ^ 52) m with hfull | hshort
  · exact unpack_pack_normal hfull hlt hleast hgreatest
  · obtain rfl := hnormal.resolve_right (not_le.2 hshort)
    exact unpack_pack_subnormal hshort

/-- The parts of a stored double. -/
theorem unpack_bounds {f : Float.Model} {s : Sign} {m : ℕ} {e : ℤ} {hm : 0 < m}
    (h : f.unpack = .finite s m e hm) :
    m < 2 ^ 53 ∧ -1074 ≤ e ∧ e ≤ 971 ∧ (e = -1074 ∨ 2 ^ 52 ≤ m) := by
  unfold Float.Model.unpack unpack at h
  dsimp only at h
  rw [exponentBias_eq] at h
  split at h
  · split at h <;> cases h
  · rename_i hmax
    split at h
    · split at h
      · cases h
      · rename_i hzero _
        cases h
        rw [hzero]
        -- The subnormals: no hidden bit, the least exponent.
        exact ⟨(BitVec.isLt _).trans (by decide), by decide, by decide, .inl (by decide)⟩
    · rename_i hne
      cases h
      -- The normal numbers: the exponent is neither reserved value, and the hidden bit fills the
      -- mantissa.
      have hpos : (@unpackExponent .binary64 f.toBits.toBitVec).toNat ≠ 0 := fun hzero =>
        hne (BitVec.eq_of_toNat_eq hzero)
      have hlt : (@unpackExponent .binary64 f.toBits.toBitVec).toNat < 2048 :=
        BitVec.isLt _
      have hmax' : (@unpackExponent .binary64 f.toBits.toBitVec).toNat ≠ 2047 :=
        fun heq => hmax (BitVec.eq_of_toNat_eq heq)
      have hfull (mantissa : BitVec 52) : 2 ^ 52 ≤ (1#1 ++ mantissa).toNat := by
        rw [BitVec.toNat_append]
        exact Nat.left_le_or
      exact ⟨BitVec.isLt _, by omega, by omega, .inr (hfull _)⟩

/-! ### The nearest double -/

/-- Every finite double lies on one of the grids. -/
theorem exists_intCast_of_number? {x : Float} {v : ℚ} (h : number? x = some v) :
    ∃ (k e : ℤ), |k| < 2 ^ 53 ∧ -1074 ≤ e ∧ v = k * 2 ^ e := by
  unfold number? at h
  cases hx : x.toModel.unpack with
  | infinity | notANumber => rw [hx] at h; cases h
  | zero =>
    rw [hx] at h
    cases h
    exact ⟨0, 0, by norm_num, by norm_num, by norm_num⟩
  | finite s m e hm =>
    rw [hx] at h
    cases h
    obtain ⟨hlt, hleast, -⟩ := unpack_bounds hx
    have hm : |(m : ℤ)| < 2 ^ 53 := by
      rw [Nat.abs_cast]
      exact_mod_cast hlt
    cases s with
    | negative => exact ⟨-m, e, by rwa [abs_neg], hleast, by simp [signed]⟩
    | positive => exact ⟨m, e, hm, hleast, by simp [signed]⟩

theorem exists_intCast_of_signed {s : Sign} {v : ℚ}
    (h : ∃ (k e : ℤ), |k| < 2 ^ 53 ∧ -1074 ≤ e ∧ v = k * 2 ^ e) :
    ∃ (k e : ℤ), |k| < 2 ^ 53 ∧ -1074 ≤ e ∧ signed s v = k * 2 ^ e := by
  obtain ⟨k, e, hk, he, rfl⟩ := h
  cases s with
  | negative => exact ⟨-k, e, by rwa [abs_neg], he, by simp [signed]⟩
  | positive => exact ⟨k, e, hk, he, rfl⟩

theorem two_zpow_add (n : ℕ) (t : ℤ) : (2 : ℚ) ^ (t + n) = 2 ^ n * 2 ^ t := by
  rw [add_comm, zpow_add₀ two_ne_zero, zpow_natCast]

/-- A number is nearer to a double than to the next power of two exactly if it is rounded to one. -/
theorem RoundsTo.lt_beyond_iff {q : ℚ} {r : ℕ} {t : ℤ} (h : RoundsTo q r t) :
    q < beyond ↔ t ≤ 970 ∨ t = 971 ∧ r < 2 ^ 53 := by
  have hpos : (0 : ℚ) < 2 ^ (971 : ℤ) := zpow_pos two_pos _
  constructor
  · intro hlt
    by_contra hnot
    rcases eq_or_ne t 971 with rfl | hne
    · have hr : r = 2 ^ 53 := le_antisymm h.le_two_pow (by omega)
      have hnear := (abs_le.1 h.near).1
      rw [beyond, ← div_lt_iff₀ hpos] at hlt
      rw [hr, Nat.cast_pow, Nat.cast_ofNat] at hnear
      linarith
    · have hq : (2 : ℚ) ^ (t + 52) ≤ q := h.normal.resolve_left (by omega)
      have hpower : (2 : ℚ) ^ (971 + (53 : ℕ) : ℤ) ≤ 2 ^ (t + 52) :=
        zpow_le_zpow_right₀ one_le_two (by omega)
      rw [two_zpow_add] at hpower
      unfold beyond at hlt
      generalize (2 : ℚ) ^ (971 : ℤ) = step at hpos hpower hlt
      linarith
  · rintro (hle | ⟨rfl, hr⟩)
    · have hpower : (2 : ℚ) ^ (t + 53) ≤ 2 ^ (971 + (52 : ℕ) : ℤ) :=
        zpow_le_zpow_right₀ one_le_two (by omega)
      rw [two_zpow_add] at hpower
      have hbelow := h.below
      unfold beyond
      generalize (2 : ℚ) ^ (971 : ℤ) = step at hpos hpower ⊢
      linarith
    · -- Halfway beyond the greatest double, the greatest double is the odd one.
      have hle : (r : ℚ) + 1 ≤ 2 ^ 53 := by exact_mod_cast hr
      have hnear := (abs_le.1 h.near).2
      rw [beyond, ← div_lt_iff₀ hpos]
      refine lt_of_le_of_ne (by linarith) fun heq => ?_
      have hr' : (r : ℚ) = (2 ^ 53 - 1 : ℕ) := by
        push_cast
        linarith
      have hodd : ¬ Even r := by
        rw [Nat.cast_inj.1 hr']
        decide
      refine hodd (h.even ?_)
      rw [heq, hr']
      norm_num

theorem unpack_pack_carried {q : ℚ} {r : ℕ} {t : ℤ} (s : Sign) (h : RoundsTo q r t) :
    (Float.Model.pack (carried s r t)).unpack =
      if q < beyond then carried s r t else .infinity s := by
  have hleast := h.least
  have hiff := h.lt_beyond_iff
  have hnormal : t = -1074 ∨ 2 ^ 52 ≤ r := or_iff_not_imp_left.2 h.two_pow_le
  split
  · rename_i hlt
    have hfits := hiff.1 hlt
    unfold carried
    split
    · exact unpack_pack_zero s
    · split
      · rename_i hr
        exact unpack_pack_finite hr hleast (by omega) hnormal
      · exact unpack_pack_finite (by norm_num) (by omega) (by omega) (.inr le_rfl)
  · -- Beyond the largest number the exponent is too big for the format whether or not it has
    -- carried.
    rename_i hge
    have hover := mt hiff.2 hge
    unfold carried
    rw [dif_neg (by omega)]
    split
    · exact unpack_pack_overflow (by omega)
    · exact unpack_pack_overflow (by omega)

theorem signOf?_carried (s : Sign) (r : ℕ) (t : ℤ) : signOf? (carried s r t) = some s := by
  unfold carried
  split
  · rfl
  · split <;> rfl

theorem numberOf?_carried {q : ℚ} {r : ℕ} {t : ℤ} (s : Sign) (h : RoundsTo q r t) :
    numberOf? (carried s r t) = some (signed s (r * 2 ^ t)) := by
  unfold carried
  split
  · rename_i hzero
    subst hzero
    cases s <;> simp [numberOf?, signed]
  · split
    · rfl
    · have hr : r = 2 ^ 53 := le_antisymm h.le_two_pow (by omega)
      have hcarry : ((2 ^ 52 : ℕ) : ℚ) * 2 ^ (t + 1) = r * 2 ^ t := by
        rw [hr, zpow_add_one₀ two_ne_zero]
        push_cast
        ring
      exact congrArg (fun v => some (signed s v)) hcarry

theorem endsEven_carried {r : ℕ} {t : ℤ} (s : Sign) (h : Even r) : EndsEven (carried s r t) := by
  unfold carried
  split
  · trivial
  · split
    · exact h
    · exact ⟨2 ^ 51, rfl⟩

theorem signOf?_pack_carried {q : ℚ} {r : ℕ} {t : ℤ} (s : Sign) (h : RoundsTo q r t) :
    signOf? (Float.Model.pack (carried s r t)).unpack = some s := by
  rw [unpack_pack_carried s h]
  split
  · exact signOf?_carried s r t
  · rfl

theorem numberOf?_pack_carried {q : ℚ} {r : ℕ} {t : ℤ} (s : Sign) (h : RoundsTo q r t)
    (hbelow : q < beyond) :
    numberOf? (Float.Model.pack (carried s r t)).unpack = some (signed s (r * 2 ^ t)) := by
  rw [unpack_pack_carried s h, if_pos hbelow]
  exact numberOf?_carried s h

/-- **The result of rounding is the nearest double.** -/
theorem isRounding_carried {q : ℚ} {r : ℕ} {t : ℤ} (s : Sign) (h : RoundsTo q r t) :
    IsRounding s q (Float.ofModel (Float.Model.pack (carried s r t))) := by
  refine ⟨signOf?_pack_carried s h, fun hbeyond => ?_, fun hbelow => ?_⟩
  · show (Float.Model.pack (carried s r t)).unpack.isInf = true
    rw [unpack_pack_carried s h, if_neg (not_lt.2 hbeyond)]
    rfl
  · refine ⟨_, numberOf?_pack_carried s h hbelow, fun y w hw => ?_⟩
    -- Any competitor lies on the grid of some exponent, where `dist_le` compares it with the
    -- rounding.
    obtain ⟨k, e, hk, he, hgrid⟩ := exists_intCast_of_signed (s := s) (exists_intCast_of_number? hw)
    obtain ⟨hle, htie⟩ := h.dist_le hk he
    rw [← hgrid] at hle htie
    rw [abs_signed_sub, abs_signed_sub, signed_signed]
    refine ⟨hle, fun heq => ?_⟩
    rcases htie heq with hsame | heven
    · left
      rw [hsame, signed_signed]
    · right
      show EndsEven (Float.Model.pack (carried s r t)).unpack
      rw [unpack_pack_carried s h, if_pos hbelow]
      exact endsEven_carried s heven

theorem isRounding_pack {q : ℚ} {r : ℕ} {t : ℤ} {s : Sign} {f : UnpackedFloat}
    (h : RoundsTo q r t) (hf : f = carried s r t) :
    IsRounding s q (Float.ofModel (Float.Model.pack f)) := by
  rw [hf]
  exact isRounding_carried s h

/-! ### Signs -/

theorem signed_neg (s : Sign) (q : ℚ) : signed (-s) q = -signed s q := by
  cases s with
  | negative => exact (neg_neg q).symm
  | positive => rfl

theorem unpack_neg (x : Float) : (-x).toModel.unpack = x.toModel.unpack.neg := by
  show (Float.Model.pack x.toModel.unpack.neg).unpack = _
  cases hx : x.toModel.unpack with
  | notANumber => rfl
  | infinity s => exact unpack_pack_infinity (-s)
  | zero s => exact unpack_pack_zero (-s)
  | finite s m e hm =>
    obtain ⟨hlt, hleast, hgreatest, hnormal⟩ := unpack_bounds hx
    exact unpack_pack_finite hlt hleast hgreatest hnormal

theorem number?_neg (x : Float) : number? (-x) = (number? x).map (-·) := by
  unfold number?
  rw [unpack_neg]
  cases x.toModel.unpack with
  | notANumber | infinity => rfl
  | zero => exact congrArg some neg_zero.symm
  | finite s m e hm => exact congrArg some (signed_neg s _)

/-- **Reading a number with the other sign gives the double with the other sign.** -/
theorem IsRounding.neg {s : Sign} {q : ℚ} {x : Float} (h : IsRounding s q x) :
    IsRounding (-s) q (-x) := by
  refine ⟨?_, fun hbeyond => ?_, fun hbelow => ?_⟩
  · have hsign := h.sign
    rw [unpack_neg]
    cases hx : x.toModel.unpack <;> rw [hx] at hsign <;> cases hsign <;> rfl
  · have hinf : x.toModel.unpack.isInf = true := h.infinite hbeyond
    show (-x).toModel.unpack.isInf = true
    rw [unpack_neg]
    cases hx : x.toModel.unpack <;> rw [hx] at hinf <;> first | rfl | cases hinf
  · obtain ⟨v, hv, hnearest⟩ := h.nearest hbelow
    refine ⟨-v, by rw [number?_neg, hv]; rfl, fun y w hw => ?_⟩
    obtain ⟨hle, htie⟩ := hnearest (-y) (-w) (by rw [number?_neg, hw]; rfl)
    have hflip (a : ℚ) : |signed (-s) q - a| = |signed s q - -a| := by
      rw [signed_neg, ← abs_neg]
      congr 1
      ring
    rw [hflip, hflip, neg_neg]
    refine ⟨hle, fun heq => ?_⟩
    rcases htie heq with hsame | heven
    · left
      rw [hsame, neg_neg]
    · right
      rw [unpack_neg]
      cases hx : x.toModel.unpack <;> rw [hx] at heven <;> exact heven

end MachiningViewer.Double
