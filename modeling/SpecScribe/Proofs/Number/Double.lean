import Mathlib
import SpecScribe.Proofs.Number.Rounding

/-!
Doubles as rational numbers. A mantissa with what is left behind it is rounded to the nearest 53
bits, and the bits of a double are read back as they were packed. So what an operation rounds and
packs is the double next to the exact result.
-/

namespace SpecScribe.Number

open Float.Model Float.Model.UnpackedFloat

/-! ### What a double stands for -/

/-- The number that an unpacked double stands for, if it is finite. -/
def unpackedValue? : UnpackedFloat → Option ℚ
  | .zero _ => some 0
  | .finite s m e _ => some (s.apply m * 2 ^ e)
  | _ => none

/-- The number that a double stands for, if it is finite. -/
def valueOf? (a : Float) : Option ℚ := unpackedValue? a.toModel.unpack

/-- A mantissa of 53 bits, or of less if the exponent is the least one. -/
def Canonical : UnpackedFloat → Prop
  | .finite _ m e _ => m < 2 ^ 53 ∧ -1074 ≤ e ∧ (2 ^ 52 ≤ m ∨ e = -1074)
  | _ => True

/-- The double next to a number, or none if the number is too large. -/
def Rounded (x : ℚ) (a : Float) : Prop :=
  (∃ v, valueOf? a = some v ∧ RoundsTo x v) ∨ valueOf? a = none ∧ 2 ^ (1023 : ℤ) ≤ x

lemma mantissa_mul_pos {m : ℕ} (hm : 0 < m) (e : ℤ) : 0 < (m : ℚ) * 2 ^ e :=
  mul_pos (by exact_mod_cast hm) (two_zpow_pos e)

lemma positive_of_nonneg {s : Sign} {m : ℕ} {e : ℤ} {hm : 0 < m} {v : ℚ}
    (h : unpackedValue? (.finite s m e hm) = some v) (hv : 0 ≤ v) :
    s = .positive ∧ v = m * 2 ^ e := by
  have hpos := mantissa_mul_pos hm e
  rw [unpackedValue?, Option.some.injEq] at h
  cases s with
  | negative =>
    have hneg : v = -(m * 2 ^ e) := by
      rw [← h, Sign.apply]
      push_cast
      ring
    linarith
  | positive =>
    refine ⟨rfl, ?_⟩
    rw [← h, Sign.apply, Int.cast_natCast]

/-! ### Mantissas with a rest -/

/-- A mantissa, its next bit and the word whether there is more behind it tell a number apart from
all others as far as rounding goes. -/
def Represents (em : ExtendedMantissa) (y : ℚ) : Prop :=
  ∃ f : ℚ, 0 ≤ f ∧ f < 1 ∧ (em.stickyBit ↔ 0 < f) ∧
    2 * y = 2 * em.mantissa + em.roundBit.toNat + f

namespace Represents

variable {em : ExtendedMantissa} {y : ℚ}

lemma mantissa_le (h : Represents em y) : em.mantissa ≤ y := by
  obtain ⟨f, hf0, -, -, hy⟩ := h
  have hround : (0 : ℚ) ≤ em.roundBit.toNat := Nat.cast_nonneg _
  linarith

lemma lt_mantissa (h : Represents em y) : y < em.mantissa + 1 := by
  obtain ⟨f, -, hf1, -, hy⟩ := h
  have hround : (em.roundBit.toNat : ℚ) ≤ 1 := by exact_mod_cast em.roundBit.toNat_le
  linarith

lemma exact (m : ℕ) : Represents (.ofMantissaAndAccuracy m .exact) m :=
  ⟨0, by simp, by simp, by simp [ExtendedMantissa.ofMantissaAndAccuracy],
    by simp [ExtendedMantissa.ofMantissaAndAccuracy]⟩

lemma fraction (m : ℕ) {num den : ℕ} (h : num < den) :
    Represents (.ofMantissaAndAccuracy m (accuracyOfFraction num den)) (m + num / den) := by
  have hden : (0 : ℚ) < den := by exact_mod_cast h.pos
  have hnum : (num : ℚ) < den := by exact_mod_cast h
  unfold accuracyOfFraction
  by_cases h0 : num = 0
  · simpa [h0] using exact m
  have hnum0 : (0 : ℚ) < num := by exact_mod_cast Nat.pos_of_ne_zero h0
  rw [if_neg h0]
  rcases hc : compare (2 * num) den with _ | _ | _ <;>
    simp only [ExtendedMantissa.ofMantissaAndAccuracy]
  · have hlt : 2 * (num : ℚ) < den := by exact_mod_cast Nat.compare_eq_lt.mp hc
    refine ⟨2 * num / den, by positivity, by rwa [div_lt_one hden], by simp; positivity, ?_⟩
    simp
    ring
  · have heq : 2 * (num : ℚ) = den := by exact_mod_cast Nat.compare_eq_eq.mp hc
    refine ⟨0, le_rfl, one_pos, by simp, ?_⟩
    simp only [Bool.toNat_true, Nat.cast_one, ← heq]
    field_simp
    ring
  · have hgt : (den : ℚ) < 2 * num := by exact_mod_cast Nat.compare_eq_gt.mp hc
    have hdiv : 1 < 2 * num / (den : ℚ) := by rwa [one_lt_div hden]
    have hlt : 2 * num / (den : ℚ) < 2 := by rw [div_lt_iff₀ hden]; linarith
    refine ⟨2 * num / den - 1, by linarith, by linarith, by simp [hdiv], ?_⟩
    simp
    ring

lemma shiftRightOne (h : Represents em y) : Represents em.shiftRightOne (y / 2) := by
  obtain ⟨f, hf0, hf1, hsticky, hy⟩ := h
  have hparity : em.mantissa = 2 * (em.mantissa / 2) + (em.mantissa % 2 != 0).toNat := by
    rcases Nat.mod_two_eq_zero_or_one em.mantissa with h | h <;> simp [h] <;> omega
  have hparity' : (em.mantissa : ℚ) = 2 * (em.mantissa / 2 : ℕ) + (em.mantissa % 2 != 0).toNat := by
    exact_mod_cast hparity
  unfold ExtendedMantissa.shiftRightOne
  refine ⟨(em.roundBit.toNat + f) / 2, by positivity, ?_, ?_, ?_⟩
  · cases em.roundBit <;> simp only [Bool.toNat_false, Bool.toNat_true] <;> norm_num <;> linarith
  · cases em.roundBit
    · simp [hsticky]
    · simp only [Bool.true_or, Bool.toNat_true, true_iff]
      positivity
  · dsimp only
    linarith

lemma shiftRight (h : Represents em y) (n : ℕ) : Represents (em >>> n) (y / 2 ^ n) := by
  induction n with
  | zero =>
    rw [pow_zero, div_one]
    exact h
  | succ n ih =>
    rw [pow_succ, ← div_div]
    exact ih.shiftRightOne

/-- A tie is rounded to an even mantissa, which is as near as the other. -/
lemma near (h : Represents em y) : |em.roundedMantissa - y| ≤ 1 / 2 := by
  obtain ⟨f, hf0, hf1, hsticky, hy⟩ := h
  obtain ⟨m, round, sticky⟩ := em
  rw [abs_le]
  cases round <;> cases sticky <;>
    simp only [ExtendedMantissa.roundedMantissa, ExtendedMantissa.accuracy, Bool.toNat_false,
      Bool.toNat_true, Accuracy.roundToNearestEven, Bool.false_eq_true, false_iff, true_iff,
      Nat.cast_zero, Nat.cast_one, Nat.cast_add] at hsticky hy ⊢
  · constructor <;> linarith
  · constructor <;> linarith
  · have hparity : (m % 2 : ℕ) = (0 : ℚ) ∨ (m % 2 : ℕ) = (1 : ℚ) := by
      exact_mod_cast Nat.mod_two_eq_zero_or_one m
    rcases hparity with h | h <;> rw [h] <;> constructor <;> linarith
  · constructor <;> linarith

end Represents

/-! ### Rounding to 53 bits -/

/-- A mantissa shows at which place a number begins. -/
lemma log_eq {m : ℕ} {e : ℤ} {x : ℚ} (hm : 0 < m) (hle : m * 2 ^ e ≤ x)
    (hlt : x < (m + 1) * 2 ^ e) : Int.log 2 x = m.log2 + e := by
  have hunit := (two_zpow_pos e).le
  have hlow : (2 : ℚ) ^ m.log2 ≤ m := by exact_mod_cast Nat.log2_self_le hm.ne'
  have hhigh : (m + 1 : ℚ) ≤ 2 ^ (m.log2 + 1) := by exact_mod_cast Nat.lt_log2_self
  have hx : 0 < x := (mantissa_mul_pos hm e).trans_le hle
  apply le_antisymm
  · rw [← Int.lt_add_one_iff, ← lt_two_zpow_iff hx]
    calc x < (m + 1) * 2 ^ e := hlt
      _ ≤ 2 ^ (m.log2 + 1) * 2 ^ e := mul_le_mul_of_nonneg_right hhigh hunit
      _ = 2 ^ ((m.log2 : ℤ) + e + 1) := by
        rw [← zpow_natCast, ← two_zpow_add]
        push_cast
        ring_nf
  · rw [← two_zpow_le_iff hx, two_zpow_add, zpow_natCast]
    exact (mul_le_mul_of_nonneg_right hlow hunit).trans hle

lemma targetExponent_eq (k : ℤ) : Format.binary64.targetExponent k = max (k - 53) (-1074) := by
  simp only [Format.targetExponent, Format.mantissaBits, Format.minExponent]
  norm_num

lemma targetExponent_eq_lastPlace {m : ℕ} {e : ℤ} {x : ℚ} (hm : 0 < m) (hle : m * 2 ^ e ≤ x)
    (hlt : x < (m + 1) * 2 ^ e) :
    Format.binary64.targetExponent (totalExponent m e) = lastPlace x := by
  rw [lastPlace, log_eq hm hle hlt, targetExponent_eq, totalExponent]
  omega

/-- A rounded mantissa that fits stays as it is. -/
lemma shiftToTargetExponent_fits {m : ℕ} {e : ℤ} (hm : m < 2 ^ 53) (he : -1074 ≤ e) :
    shiftToTargetExponent Format.binary64 m e .exact = (⟨m, false, false⟩, e) := by
  have hlog : m.log2 ≤ 52 := by
    by_cases h : m = 0
    · simp [h]
    · have := (Nat.log2_lt h).mpr hm
      omega
  have hshift : (Format.binary64.targetExponent (totalExponent m e) - e).toNat = 0 := by
    rw [targetExponent_eq, totalExponent]
    omega
  rw [shiftToTargetExponent, shiftToExponent, hshift]
  simp [HShiftRight.hShiftRight, Nat.repeat, ExtendedMantissa.ofMantissaAndAccuracy]

/-- A mantissa that was rounded up to 54 bits gives one of them away, which is zero. -/
lemma shiftToTargetExponent_carry {e : ℤ} (he : -1074 ≤ e) :
    shiftToTargetExponent Format.binary64 (2 ^ 53) e .exact = (⟨2 ^ 52, false, false⟩, e + 1) := by
  have hshift : (Format.binary64.targetExponent (totalExponent (2 ^ 53) e) - e).toNat = 1 := by
    rw [targetExponent_eq, totalExponent, Nat.log2_two_pow]
    omega
  rw [shiftToTargetExponent, shiftToExponent, hshift]
  rfl

lemma ofMantissaAndAccuracy_mantissa (m : ℕ) (acc : Accuracy) :
    (ExtendedMantissa.ofMantissaAndAccuracy m acc).mantissa = m := by
  rcases acc with _ | _ | _ | _ <;> rfl

/-- What is left to do with a mantissa that was rounded to a last place `t`. -/
lemma finish_rounding {r : ℕ} {t : ℤ} (ht : -1074 ≤ t) (hr : r ≤ 2 ^ 53)
    (hfull : 2 ^ 52 ≤ r ∨ t = -1074) {u : UnpackedFloat}
    (hu : u =
      if h : (shiftToTargetExponent Format.binary64 r t .exact).1.mantissa = 0 then .zero .positive
      else .finite .positive _ (shiftToTargetExponent Format.binary64 r t .exact).2
        (Nat.pos_of_ne_zero h)) :
    Canonical u ∧ unpackedValue? u = some ((r : ℚ) * 2 ^ t) := by
  subst hu
  rcases hr.lt_or_eq with hlt | rfl
  · by_cases h0 : r = 0
    · subst h0
      simp [shiftToTargetExponent_fits (show 0 < 2 ^ 53 by norm_num) ht, Canonical, unpackedValue?]
    · simp only [shiftToTargetExponent_fits hlt ht, h0, dite_false]
      exact ⟨⟨hlt, ht, hfull⟩, by simp [unpackedValue?, Sign.apply]⟩
  · simp only [shiftToTargetExponent_carry ht]
    refine ⟨by simp [Canonical]; omega, ?_⟩
    simp [unpackedValue?, Sign.apply, two_zpow_add]
    ring

/-- The core of all operations: a mantissa that represents `x` with at least the places that are
needed is rounded to the double next to `x`. -/
lemma roundWithAccuracy_roundsTo {m : ℕ} {e : ℤ} {acc : Accuracy} {x : ℚ} (hm : 0 < m)
    (hx : Represents (.ofMantissaAndAccuracy m acc) (x / 2 ^ e)) (he : e ≤ lastPlace x) :
    ∃ v, RoundsTo x v ∧ Canonical (roundWithAccuracy Format.binary64 .positive m e acc) ∧
      unpackedValue? (roundWithAccuracy Format.binary64 .positive m e acc) = some v := by
  have hle : m * 2 ^ e ≤ x := by
    rw [← le_div_iff₀ (two_zpow_pos e)]
    simpa [ofMantissaAndAccuracy_mantissa] using hx.mantissa_le
  have hlt : x < (m + 1) * 2 ^ e := by
    rw [← div_lt_iff₀ (two_zpow_pos e)]
    simpa [ofMantissaAndAccuracy_mantissa] using hx.lt_mantissa
  have hpos : 0 < x := (mantissa_mul_pos hm e).trans_le hle
  set t := lastPlace x with ht
  set em := ExtendedMantissa.ofMantissaAndAccuracy m acc >>> (t - e).toNat with hem
  have hfirst : shiftToTargetExponent Format.binary64 m e acc = (em, t) := by
    rw [shiftToTargetExponent, targetExponent_eq_lastPlace hm hle hlt, shiftToExponent]
    exact Prod.ext rfl (by simp only; omega)
  have hem : Represents em (x / 2 ^ t) := by
    have hshift := hx.shiftRight (t - e).toNat
    have hexp : (2 : ℚ) ^ t = 2 ^ e * 2 ^ (t - e).toNat := by
      rw [two_zpow_eq_mul he]
      push_cast
      ring
    rwa [div_div, ← hexp] at hshift
  have hmin : -1074 ≤ t := le_max_right _ _
  obtain ⟨hfits, hfull⟩ := near_mantissa hpos hem.near
  refine ⟨em.roundedMantissa * 2 ^ t, ⟨em.roundedMantissa, rfl, hem.near⟩,
    finish_rounding hmin hfits hfull ?_⟩
  rw [roundWithAccuracy, hfirst]

lemma decreaseExponent_value (m : ℕ) (e t : ℤ) :
    ((decreaseExponent m e t).1 : ℚ) * 2 ^ (decreaseExponent m e t).2 = m * 2 ^ e := by
  have hexp : e = ((e - t).toNat : ℤ) + (e - (e - t).toNat) := by omega
  rw [decreaseExponent, Nat.shiftLeft_eq]
  conv_rhs => rw [hexp, two_zpow_add, zpow_natCast]
  push_cast
  ring

lemma mul_two_zpow_eq_decreaseExponent (m : ℕ) {e t : ℤ} (h : t ≤ e) :
    (m : ℚ) * 2 ^ e = (decreaseExponent m e t).1 * 2 ^ t := by
  have hexp : (decreaseExponent m e t).2 = t := by
    rw [decreaseExponent]
    omega
  conv_lhs => rw [← decreaseExponent_value m e t, hexp]

lemma round_roundsTo {m : ℕ} (e : ℤ) (hm : 0 < m) :
    ∃ v, RoundsTo (m * 2 ^ e) v ∧
      Canonical (UnpackedFloat.round Format.binary64 .positive m e) ∧
      unpackedValue? (UnpackedFloat.round Format.binary64 .positive m e) = some v := by
  have hunit := two_zpow_pos e
  have hplace : Format.binary64.targetExponent (totalExponent m e) = lastPlace (m * 2 ^ e) :=
    targetExponent_eq_lastPlace hm le_rfl (by linarith)
  have hvalue := decreaseExponent_value m e (lastPlace (m * 2 ^ e))
  rw [UnpackedFloat.round, hplace]
  generalize hd : decreaseExponent m e (lastPlace (m * 2 ^ e)) = d at hvalue
  obtain ⟨m', e'⟩ := d
  refine roundWithAccuracy_roundsTo ?_ ?_ ?_
  · rw [decreaseExponent, Prod.mk.injEq] at hd
    rw [← hd.1, Nat.shiftLeft_eq]
    positivity
  · rw [← hvalue, mul_div_cancel_right₀ _ (two_zpow_pos e').ne']
    exact .exact m'
  · rw [decreaseExponent, Prod.mk.injEq] at hd
    omega

/-! ### Bits -/

lemma toNat_unpackMantissa (b : BitVec Format.binary64.numBits) :
    (unpackMantissa b).toNat = b.toNat % 2 ^ 52 := by
  simp [unpackMantissa]

lemma toNat_unpackExponent (b : BitVec Format.binary64.numBits) :
    (unpackExponent b).toNat = b.toNat / 2 ^ 52 % 2 ^ 11 := by
  simp [unpackExponent, Nat.shiftRight_eq_div_pow]

lemma toNat_unpackSign (b : BitVec Format.binary64.numBits) :
    (unpackSign b).toNat = b.toNat / 2 ^ 63 % 2 := by
  simp [unpackSign, Nat.shiftRight_eq_div_pow]

lemma toNat_implicit_append (b : BitVec 52) : (1#1 ++ b).toNat = 2 ^ 52 + b.toNat := by
  rw [BitVec.toNat_append, ← Nat.shiftLeft_add_eq_or_of_lt b.isLt]
  rfl

section Unpack

variable {b : BitVec Format.binary64.numBits}

lemma unpackExponent_eq_ones_iff : unpackExponent b = -1#_ ↔ b.toNat / 2 ^ 52 % 2 ^ 11 = 2047 := by
  rw [← toNat_unpackExponent, ← BitVec.toNat_inj]
  rfl

lemma unpackExponent_eq_zero_iff : unpackExponent b = 0#_ ↔ b.toNat / 2 ^ 52 % 2 ^ 11 = 0 := by
  rw [← toNat_unpackExponent, ← BitVec.toNat_inj]
  rfl

lemma unpackMantissa_eq_zero_iff : unpackMantissa b = 0#_ ↔ b.toNat % 2 ^ 52 = 0 := by
  rw [← toNat_unpackMantissa, ← BitVec.toNat_inj]
  rfl

lemma unpack_infinite (h : b.toNat / 2 ^ 52 % 2 ^ 11 = 2047) :
    UnpackedFloat.unpack Format.binary64 b = .infinity (.ofBitVec (unpackSign b)) ∨
      UnpackedFloat.unpack Format.binary64 b = .notANumber := by
  simp only [UnpackedFloat.unpack, unpackExponent_eq_ones_iff.mpr h, if_true]
  split_ifs
  · exact .inl rfl
  · exact .inr rfl

lemma unpack_normal (h0 : b.toNat / 2 ^ 52 % 2 ^ 11 ≠ 0) (h : b.toNat / 2 ^ 52 % 2 ^ 11 ≠ 2047) :
    UnpackedFloat.unpack Format.binary64 b =
      .finite (.ofBitVec (unpackSign b)) (2 ^ 52 + b.toNat % 2 ^ 52)
        ((b.toNat / 2 ^ 52 % 2 ^ 11 : ℕ) - 1075) (by positivity) := by
  simp only [UnpackedFloat.unpack, mt unpackExponent_eq_ones_iff.mp h,
    mt unpackExponent_eq_zero_iff.mp h0, if_false, toNat_implicit_append, toNat_unpackMantissa,
    toNat_unpackExponent]
  rfl

lemma unpack_subnormal (h : b.toNat / 2 ^ 52 % 2 ^ 11 = 0) (hm : 0 < b.toNat % 2 ^ 52) :
    UnpackedFloat.unpack Format.binary64 b =
      .finite (.ofBitVec (unpackSign b)) (b.toNat % 2 ^ 52) (-1074) hm := by
  simp only [UnpackedFloat.unpack, unpackExponent_eq_zero_iff.mpr h,
    mt unpackMantissa_eq_zero_iff.mp hm.ne', dite_false, toNat_unpackMantissa]
  rfl

lemma unpack_zero (h : b.toNat / 2 ^ 52 % 2 ^ 11 = 0) (hm : b.toNat % 2 ^ 52 = 0) :
    UnpackedFloat.unpack Format.binary64 b = .zero (.ofBitVec (unpackSign b)) := by
  simp only [UnpackedFloat.unpack, unpackExponent_eq_zero_iff.mpr h,
    unpackMantissa_eq_zero_iff.mpr hm, dite_true]
  rfl

/-- A double fits into its bits. -/
lemma unpack_finite {s : Sign} {m : ℕ} {e : ℤ} {hm : 0 < m}
    (h : UnpackedFloat.unpack Format.binary64 b = .finite s m e hm) :
    Canonical (.finite s m e hm) ∧ e ≤ 971 := by
  by_cases hinf : b.toNat / 2 ^ 52 % 2 ^ 11 = 2047
  · rcases unpack_infinite hinf with h' | h' <;> cases h'.symm.trans h
  by_cases h0 : b.toNat / 2 ^ 52 % 2 ^ 11 = 0
  · rcases Nat.eq_zero_or_pos (b.toNat % 2 ^ 52) with hm0 | hm0
    · cases (unpack_zero h0 hm0).symm.trans h
    · cases (unpack_subnormal h0 hm0).symm.trans h
      exact ⟨⟨by omega, le_rfl, .inr rfl⟩, by norm_num⟩
  · cases (unpack_normal h0 hinf).symm.trans h
    exact ⟨⟨by omega, by omega, .inl (by omega)⟩, by omega⟩

end Unpack

/-! ### Packing -/

section Pack

variable (s : Sign) (e : BitVec 11) (m : BitVec 52)

lemma packComponents_mantissa :
    (packComponents Format.binary64 s e m).toNat % 2 ^ 52 = m.toNat := by
  rw [← toNat_unpackMantissa, unpackMantissa_packComponents]

lemma packComponents_exponent :
    (packComponents Format.binary64 s e m).toNat / 2 ^ 52 % 2 ^ 11 = e.toNat := by
  rw [← toNat_unpackExponent, unpackExponent_packComponents]

lemma packComponents_sign :
    Sign.ofBitVec (unpackSign (packComponents Format.binary64 s e m)) = s := by
  have hsign : unpackSign (packComponents Format.binary64 s e m) = s.toBitVec := by
    apply BitVec.eq_of_toNat_eq
    have he := e.isLt
    have hm := m.isLt
    rw [toNat_unpackSign, packComponents, BitVec.toNat_append, BitVec.toNat_append,
      ← Nat.shiftLeft_add_eq_or_of_lt hm, ← Nat.shiftLeft_add_eq_or_of_lt he]
    simp only [Nat.shiftLeft_eq]
    cases s <;> simp only [Sign.toBitVec, BitVec.toNat_ofNat] <;> omega
  rw [hsign]
  cases s <;> rfl

end Pack

lemma pack_finite {s : Sign} {m : ℕ} {e : ℤ} {hm : 0 < m} (hm53 : m < 2 ^ 53) (he : e ≤ 971) :
    UnpackedFloat.pack Format.binary64 (.finite s m e hm) =
      packComponents Format.binary64 s
        (if 2 ^ 52 ≤ m then .ofNat 11 (e + 1075).toNat else 0#11) (.ofNat 52 m) := by
  have hbiased : (e + (Format.binary64.exponentBias : ℕ) + (52 : ℕ)).toNat = (e + 1075).toNat := by
    change (e + (1023 : ℕ) + (52 : ℕ)).toNat = _
    omega
  have hnormal : m.log2 + 1 = Format.binary64.mantissaBits ↔ 2 ^ 52 ≤ m := by
    change m.log2 + 1 = 53 ↔ _
    have hlog := (Nat.log2_lt hm.ne').mpr hm53
    rw [← Nat.le_log2 hm.ne']
    omega
  change (if 2 ^ 11 ≤ (e + (Format.binary64.exponentBias : ℕ) + (52 : ℕ)).toNat + 1 then _ else
    if m.log2 + 1 = Format.binary64.mantissaBits then _ else _) = _
  rw [hbiased, if_neg (by omega), if_congr hnormal rfl rfl]
  split_ifs <;> rfl

lemma pack_infinite {s : Sign} {m : ℕ} {e : ℤ} {hm : 0 < m} (he : 971 < e) :
    UnpackedFloat.pack Format.binary64 (.finite s m e hm) = packedInfinity Format.binary64 s := by
  have hbiased : 2 ^ 11 ≤ (e + (1023 : ℕ) + (52 : ℕ)).toNat + 1 := by omega
  exact if_pos hbiased

lemma valueOf?_pack_infinite {s : Sign} {m : ℕ} {e : ℤ} {hm : 0 < m} (he : 971 < e) :
    valueOf? ⟨.pack (.finite s m e hm)⟩ = none := by
  have hones : (packComponents Format.binary64 s (-1#11) 0).toNat / 2 ^ 52 % 2 ^ 11 = 2047 := by
    rw [packComponents_exponent]
    rfl
  change unpackedValue? (UnpackedFloat.unpack _ (UnpackedFloat.pack _ _)) = _
  rw [pack_infinite he, packedInfinity]
  rcases unpack_infinite hones with h | h <;> rw [h] <;> rfl

/-- A double that fits is read back as it was packed. -/
lemma unpack_pack {s : Sign} {m : ℕ} {e : ℤ} {hm : 0 < m} (h : Canonical (.finite s m e hm))
    (he : e ≤ 971) : (Float.Model.pack (.finite s m e hm)).unpack = .finite s m e hm := by
  obtain ⟨hm53, hmin, hfull⟩ := h
  change UnpackedFloat.unpack _ (UnpackedFloat.pack _ _) = _
  rw [pack_finite hm53 he]
  split_ifs with hnormal
  · have hexp : (BitVec.ofNat 11 (e + 1075).toNat).toNat = (e + 1075).toNat := by
      rw [BitVec.toNat_ofNat, Nat.mod_eq_of_lt (by omega)]
    have hmant : (BitVec.ofNat 52 m).toNat = m - 2 ^ 52 := by
      rw [BitVec.toNat_ofNat]
      omega
    rw [unpack_normal (by rw [packComponents_exponent, hexp]; omega)
      (by rw [packComponents_exponent, hexp]; omega)]
    have hmant' : 2 ^ 52 + (m - 2 ^ 52) = m := by omega
    have hexp' : ((e + 1075).toNat : ℤ) - 1075 = e := by omega
    simp only [packComponents_exponent, packComponents_mantissa, packComponents_sign, hexp, hmant,
      hmant', hexp']
  · have hmant : (BitVec.ofNat 52 m).toNat = m := by
      rw [BitVec.toNat_ofNat, Nat.mod_eq_of_lt (by omega)]
    rw [unpack_subnormal (by rw [packComponents_exponent]; rfl)
      (by rw [packComponents_mantissa, hmant]; exact hm)]
    simp only [packComponents_mantissa, packComponents_sign, hmant, hfull.resolve_left hnormal]

/-- What is packed after rounding is the double next to the number. -/
lemma rounded_pack {x v : ℚ} {u : UnpackedFloat} (hx : 0 ≤ x) (h : RoundsTo x v)
    (hu : Canonical u) (hv : unpackedValue? u = some v) : Rounded x ⟨.pack u⟩ := by
  cases u with
  | infinity s => cases hv
  | notANumber => cases hv
  | zero s =>
    refine .inl ⟨v, ?_, h⟩
    rw [← hv]
    cases s <;> rfl
  | finite s m e hm =>
    rcases le_or_gt e 971 with he | he
    · refine .inl ⟨v, ?_, h⟩
      rw [valueOf?, unpack_pack hu he, hv]
    · refine .inr ⟨valueOf?_pack_infinite he, ?_⟩
      by_contra hlt
      obtain ⟨-, rfl⟩ := positive_of_nonneg hv h.nonneg
      obtain ⟨-, -, hfull⟩ := hu
      have hm52 : 2 ^ 52 ≤ m := hfull.resolve_right (by omega)
      have hle : (m : ℚ) * 2 ^ e ≤ 2 ^ (1023 : ℤ) :=
        h.ge_of_ge hx (representable_two_zpow (by norm_num)) (not_le.mp hlt).le
      have hlarge : (2 : ℚ) ^ (1024 : ℤ) ≤ m * 2 ^ e :=
        calc (2 : ℚ) ^ (1024 : ℤ) = 2 ^ 52 * 2 ^ (972 : ℤ) := by
              rw [show (1024 : ℤ) = (52 : ℕ) + 972 by norm_num, two_zpow_add, zpow_natCast]
          _ ≤ m * 2 ^ e :=
              mul_le_mul (by exact_mod_cast hm52) (two_zpow_le (by omega)) (two_zpow_pos _).le
                m.cast_nonneg
      exact absurd (hlarge.trans hle) (not_le.mpr (zpow_lt_zpow_right₀ one_lt_two (by norm_num)))

end SpecScribe.Number
