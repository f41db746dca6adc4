import MachiningViewer.Proofs.Json.Record
import MachiningViewer.Proofs.Number.Scientific

/-!
# Doubles in JSON texts

Every number that a JSON text gives is finite. An integer fits into 64 bits, so it is nearer to a
double than to what is beyond them (`isFinite_ofInt`), and a number with a fraction or an exponent
is given only if what it is scaled to is finite (`Number.isFinite_of_ofDigits`). So what a reader of
doubles takes from a text, which is each number within reach of the doubles and nothing else
(`Tree.double_eq_ok_iff`), is finite (`Tree.Spelled.isFinite`).
-/

namespace MachiningViewer

namespace Double

theorem isFinite_eq (x : Float) : x.isFinite = x.toModel.unpack.isFinite :=
  rfl

/-- The finite doubles are those that are numbers. -/
theorem isFinite_iff {x : Float} : x.isFinite = true ↔ ∃ v, number? x = some v := by
  rw [isFinite_eq, number?]
  cases x.toModel.unpack with
  | notANumber | infinity => exact ⟨fun h => (Bool.noConfusion h), fun ⟨v, hv⟩ => nomatch hv⟩
  | zero | finite => exact ⟨fun _ => ⟨_, rfl⟩, fun _ => rfl⟩

theorem isFinite_neg {x : Float} (h : x.isFinite = true) : (-x).isFinite = true := by
  obtain ⟨v, hv⟩ := isFinite_iff.1 h
  exact isFinite_iff.2 ⟨-v, by rw [number?_neg, hv]; rfl⟩

theorem IsRounding.isFinite {s : Float.Model.UnpackedFloat.Sign} {q : ℚ} {x : Float}
    (h : IsRounding s q x) (hq : q < beyond) : x.isFinite = true := by
  obtain ⟨v, hv, -⟩ := h.nearest hq
  exact isFinite_iff.2 ⟨v, hv⟩

/-- A whole number of 64 bits is within reach of the doubles. -/
theorem isFinite_ofNat {n : ℕ} (hn : n < 2 ^ 64) : (Float.ofNat n).isFinite = true :=
  (isRounding_float_ofNat n).isFinite (lt_beyond (by exact_mod_cast hn))

theorem isFinite_ofInt {i : ℤ} (hi : Json.IsInteger64 i) : (Float.ofInt i).isFinite = true := by
  obtain ⟨hlower, hupper⟩ := hi
  have hbound : twoTo 63 < 2 ^ 64 ∧ twoTo 64 = 2 ^ 64 := by decide
  cases i with
  | ofNat n =>
    simp only [Int.ofNat_eq_natCast] at hupper
    exact isFinite_ofNat (by omega)
  | negSucc n =>
    simp only [Int.negSucc_eq] at hlower
    exact isFinite_neg (isFinite_ofNat (by omega))

end Double

namespace Json

namespace Number

theorem isFinite_of_scale? {significand : Nat} {exponent : Int} {x : Float}
    (h : scale? significand exponent = some x) : x.isFinite = true := by
  -- Scaling up and scaling down both ask whether the result is finite, and zero is.
  unfold scale? at h
  simp only at h
  split at h
  · split at h
    · obtain rfl := Option.some.inj h
      assumption
    · cases h
  · split at h
    · unfold scaleUp? at h
      simp only at h
      split at h
      · obtain rfl := Option.some.inj h
        assumption
      · cases h
    · split at h
      · obtain rfl := Option.some.inj h
        decide
      · cases h

/-- A number with digits and an exponent is a finite double or out of range. -/
theorem isFinite_of_ofDigits {negative : Bool} {whole fraction : List Char} {exponent : Int}
    {x : Float} (h : ofDigits negative whole fraction exponent = .double x) :
    x.isFinite = true := by
  unfold ofDigits at h
  simp only at h
  split at h
  · rename_i y hy
    have hfinite := isFinite_of_scale? hy
    obtain rfl := Number.double.inj h
    split
    · exact Double.isFinite_neg hfinite
    · exact hfinite
  · cases h

theorem isFinite_of_ofWhole {negative : Bool} {whole : List Char} {x : Float}
    (h : ofWhole negative whole = .double x) : x.isFinite = true := by
  unfold ofWhole at h
  simp only at h
  split at h
  · split at h
    · cases h
    · exact isFinite_of_ofDigits h
  · split at h
    · cases h
    · exact isFinite_of_ofDigits h

end Number

/-- **A double that a text spells is finite**, whatever its digits and its exponent. -/
theorem Numeral.isFinite {n : Numeral} {x : Float} (h : n.value = .double x) :
    x.isFinite = true := by
  unfold Numeral.value NumberTail.value at h
  split at h
  · exact Number.isFinite_of_ofWhole h
  · exact Number.isFinite_of_ofDigits h

/-- The tree is a number within reach of the doubles, and this is the double. Integers are rounded
to the nearest one. -/
inductive Tree.IsDouble : Tree → Float → Prop
  | integer (i : Int) : IsDouble (.number (.integer i)) (Float.ofInt i)
  | double (x : Float) : IsDouble (.number (.double x)) x

namespace Tree.Spelled

theorem isFinite {t : Tree} {x : Float} (ht : t.Spelled) (h : t.IsDouble x) :
    x.isFinite = true := by
  cases h with
  | integer i => exact Double.isFinite_ofInt ht.isInteger64
  | double x =>
    generalize hnumber : Tree.number (.double x) = t at ht
    cases ht with
    | number n => exact n.isFinite (Tree.number.inj hnumber).symm
    | null | boolean | string | array | object => cases hnumber

end Tree.Spelled

/-- Of the numbers, those within reach are read, and nothing else is. -/
theorem Tree.double_eq_ok_iff {t : Tree} {x : Float} : t.double = .ok x ↔ t.IsDouble x := by
  constructor
  · intro h
    unfold Tree.double at h
    split at h
    · obtain rfl := Except.ok.inj h
      exact .integer _
    · obtain rfl := Except.ok.inj h
      exact .double _
    · exact absurd h mismatch_ne_ok
  · intro h
    cases h with
    | integer i => rfl
    | double x => rfl

end Json

end MachiningViewer
