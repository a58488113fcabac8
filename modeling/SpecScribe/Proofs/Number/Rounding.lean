import Mathlib

/-!
Rounding to the nearest double, on the line of rational numbers that are not negative. A number is
rounded to a multiple of the unit in its last place. So the result is within half a unit, and no
double lies between a number and what it is rounded to.
-/

namespace SpecScribe.Number

variable {x v z : ℚ}

/-- The exponent of the last place that a double next to `x` has. -/
def lastPlace (x : ℚ) : ℤ := max (Int.log 2 x - 52) (-1074)

/-- A multiple of the unit in the last place of `x`, at most half a unit away. -/
def RoundsTo (x v : ℚ) : Prop :=
  ∃ r : ℕ, v = r * 2 ^ lastPlace x ∧ |r - x / 2 ^ lastPlace x| ≤ 1 / 2

/-- The values of doubles without a sign. There is no bound above. -/
def Representable (z : ℚ) : Prop := ∃ (n : ℕ) (q : ℤ), n < 2 ^ 53 ∧ -1074 ≤ q ∧ z = n * 2 ^ q

lemma two_zpow_pos (q : ℤ) : (0 : ℚ) < 2 ^ q := zpow_pos two_pos q

lemma two_zpow_add (p q : ℤ) : (2 : ℚ) ^ (p + q) = 2 ^ p * 2 ^ q := zpow_add₀ two_ne_zero p q

lemma two_zpow_le {p q : ℤ} (h : p ≤ q) : (2 : ℚ) ^ p ≤ 2 ^ q := zpow_le_zpow_right₀ one_le_two h

/-- A unit is a whole number of smaller units. -/
lemma two_zpow_eq_mul {t q : ℤ} (h : t ≤ q) :
    (2 : ℚ) ^ q = ((2 ^ (q - t).toNat : ℕ) : ℚ) * 2 ^ t := by
  have hexp : q = ((q - t).toNat : ℤ) + t := by omega
  conv_lhs => rw [hexp, two_zpow_add, zpow_natCast]
  push_cast
  rfl

lemma lt_two_zpow_iff (hx : 0 < x) (k : ℤ) : x < 2 ^ k ↔ Int.log 2 x < k := by
  simpa using Int.lt_zpow_iff_log_lt (b := 2) (x := k) one_lt_two hx

lemma two_zpow_le_iff (hx : 0 < x) (k : ℤ) : 2 ^ k ≤ x ↔ k ≤ Int.log 2 x := by
  simpa using Int.zpow_le_iff_le_log (b := 2) (x := k) one_lt_two hx

/-! ### The last place -/

lemma lastPlace_le {k : ℤ} (hx : 0 < x) (h : x < 2 ^ k) (hk : -1021 ≤ k) :
    lastPlace x ≤ k - 53 := by
  have hlog := (lt_two_zpow_iff hx k).mp h
  unfold lastPlace
  omega

/-- A number has at most 53 places. -/
lemma div_lastPlace_lt (hx : 0 < x) : x / 2 ^ lastPlace x < 2 ^ 53 := by
  have hlog : Int.log 2 x < 53 + lastPlace x := by
    unfold lastPlace
    omega
  rw [div_lt_iff₀ (two_zpow_pos _)]
  simpa [two_zpow_add] using (lt_two_zpow_iff hx (53 + lastPlace x)).mpr hlog

/-- A number that is not too small has all 53 places. -/
lemma le_div_lastPlace (hx : 0 < x) (h : -1074 < lastPlace x) : 2 ^ 52 ≤ x / 2 ^ lastPlace x := by
  have hlog : 52 + lastPlace x ≤ Int.log 2 x := by
    unfold lastPlace at h ⊢
    omega
  rw [le_div_iff₀ (two_zpow_pos _)]
  simpa [two_zpow_add] using (two_zpow_le_iff hx (52 + lastPlace x)).mpr hlog

lemma representable_zero : Representable 0 := ⟨0, 0, by norm_num, by norm_num, by simp⟩

lemma representable_two_zpow {k : ℤ} (hk : -1074 ≤ k) : Representable (2 ^ k) :=
  ⟨1, k, by norm_num, hk, by simp⟩

lemma Representable.nonneg (hz : Representable z) : 0 ≤ z := by
  obtain ⟨n, q, -, -, rfl⟩ := hz
  exact mul_nonneg n.cast_nonneg (two_zpow_pos q).le

/-- A double is a whole number of units of each number that is not larger, or below all of the
numbers with that unit. -/
lemma Representable.cases (hz : Representable z) (hx : 0 < x) :
    (∃ n : ℕ, z = n * 2 ^ lastPlace x) ∨
      z < 2 ^ 52 * 2 ^ lastPlace x ∧ 2 ^ 52 ≤ x / 2 ^ lastPlace x := by
  obtain ⟨n, q, hn, hq, rfl⟩ := hz
  by_cases hle : lastPlace x ≤ q
  · refine .inl ⟨n * 2 ^ (q - lastPlace x).toNat, ?_⟩
    rw [two_zpow_eq_mul hle]
    push_cast
    ring
  · refine .inr ⟨?_, le_div_lastPlace hx (by omega)⟩
    have hn' : (n : ℚ) < 2 ^ 53 := by exact_mod_cast hn
    calc (n : ℚ) * 2 ^ q < 2 ^ 53 * 2 ^ q := by
          exact mul_lt_mul_of_pos_right hn' (two_zpow_pos q)
      _ = 2 ^ 52 * 2 ^ (q + 1) := by rw [two_zpow_add]; ring
      _ ≤ 2 ^ 52 * 2 ^ lastPlace x := by
          have := two_zpow_le (show q + 1 ≤ lastPlace x by omega)
          linarith

/-! ### Nearest numbers -/

lemma le_of_near {n r : ℕ} {y : ℚ} (h : |r - y| ≤ 1 / 2) (hn : n ≤ y) : n ≤ r := by
  have hle : (n : ℚ) < r + 1 := by linarith [(abs_le.mp h).1]
  exact Nat.lt_add_one_iff.mp (by exact_mod_cast hle)

lemma near_le {n r : ℕ} {y : ℚ} (h : |r - y| ≤ 1 / 2) (hn : y ≤ n) : r ≤ n := by
  have hle : (r : ℚ) < n + 1 := by linarith [(abs_le.mp h).2]
  exact Nat.lt_add_one_iff.mp (by exact_mod_cast hle)

/-- The nearest mantissa has 53 bits, or it is the next power of two. -/
lemma near_mantissa {r : ℕ} (hx : 0 < x) (h : |r - x / 2 ^ lastPlace x| ≤ 1 / 2) :
    r ≤ 2 ^ 53 ∧ (2 ^ 52 ≤ r ∨ lastPlace x = -1074) := by
  have hmin : -1074 ≤ lastPlace x := le_max_right _ _
  refine ⟨near_le h (by exact_mod_cast (div_lastPlace_lt hx).le), ?_⟩
  rcases hmin.eq_or_lt with hleast | hlarge
  · exact .inr hleast.symm
  · exact .inl (le_of_near h (by exact_mod_cast le_div_lastPlace hx hlarge))

namespace RoundsTo

lemma nonneg (h : RoundsTo x v) : 0 ≤ v := by
  obtain ⟨r, rfl, -⟩ := h
  exact mul_nonneg r.cast_nonneg (two_zpow_pos _).le

lemma abs_sub_le (h : RoundsTo x v) : |v - x| ≤ 2 ^ lastPlace x / 2 := by
  obtain ⟨r, rfl, hr⟩ := h
  have hunit := two_zpow_pos (lastPlace x)
  have hscale : r * 2 ^ lastPlace x - x = (r - x / 2 ^ lastPlace x) * 2 ^ lastPlace x := by
    field_simp
  rw [hscale, abs_mul, abs_of_pos hunit]
  linarith [mul_le_mul_of_nonneg_right hr hunit.le]

lemma eq_zero (h : RoundsTo 0 v) : v = 0 := by
  obtain ⟨r, rfl, hr⟩ := h
  have hr' : r ≤ 0 := near_le hr (by simp)
  simp [Nat.le_zero.mp hr']

/-- The error for numbers below a power of two. -/
lemma near {k : ℤ} (h : RoundsTo x v) (hx : 0 ≤ x) (hlt : x < 2 ^ k) (hk : -1021 ≤ k) :
    |v - x| ≤ 2 ^ (k - 54) := by
  rcases hx.eq_or_lt with rfl | hx
  · rw [h.eq_zero]
    simpa using (two_zpow_pos _).le
  · have hplace := two_zpow_le (lastPlace_le hx hlt hk)
    have hhalf : (2 : ℚ) ^ (k - 53) = 2 ^ (k - 54) * 2 := by
      rw [show k - 53 = k - 54 + 1 by ring, two_zpow_add, zpow_one]
    linarith [h.abs_sub_le]

/-- No double lies between a number and what it is rounded down to. -/
lemma le_of_le (h : RoundsTo x v) (hz : Representable z) (hle : z ≤ x) : z ≤ v := by
  rcases le_or_gt z 0 with hz0 | hz0
  · exact hz0.trans h.nonneg
  obtain ⟨r, rfl, hr⟩ := h
  have hunit := two_zpow_pos (lastPlace x)
  rcases hz.cases (hz0.trans_le hle) with ⟨n, rfl⟩ | ⟨hsmall, hlarge⟩
  · have hn : n ≤ r := le_of_near hr (by rwa [le_div_iff₀ hunit])
    exact mul_le_mul_of_nonneg_right (by exact_mod_cast hn) hunit.le
  · have hr52 : 2 ^ 52 ≤ r := le_of_near hr (by exact_mod_cast hlarge)
    have hr52' : (2 : ℚ) ^ 52 ≤ r := by exact_mod_cast hr52
    exact hsmall.le.trans (mul_le_mul_of_nonneg_right hr52' hunit.le)

/-- No double lies between a number and what it is rounded up to. -/
lemma ge_of_ge (h : RoundsTo x v) (hx : 0 ≤ x) (hz : Representable z) (hle : x ≤ z) : v ≤ z := by
  rcases hx.eq_or_lt with rfl | hx
  · rw [h.eq_zero]
    exact hle
  obtain ⟨r, rfl, hr⟩ := h
  have hunit := two_zpow_pos (lastPlace x)
  rcases hz.cases hx with ⟨n, rfl⟩ | ⟨hsmall, hlarge⟩
  · have hn : r ≤ n := near_le hr (by rwa [div_le_iff₀ hunit])
    exact mul_le_mul_of_nonneg_right (by exact_mod_cast hn) hunit.le
  · rw [le_div_iff₀ hunit] at hlarge
    exact absurd (hlarge.trans hle) hsmall.not_ge

/-- A number is below a power of two if it is rounded to one that is. -/
lemma lt_of_lt {k : ℤ} (h : RoundsTo x v) (hk : -1074 ≤ k) (hv : v < 2 ^ k) : x < 2 ^ k := by
  by_contra hge
  exact absurd (h.le_of_le (representable_two_zpow hk) (not_lt.mp hge)) hv.not_ge

/-- A double is rounded to itself. -/
lemma eq_of_representable (h : RoundsTo x v) (hx : Representable x) : v = x :=
  le_antisymm (h.ge_of_ge hx.nonneg hx le_rfl) (h.le_of_le hx le_rfl)

lemma self (hx : Representable x) : RoundsTo x x := by
  have hunit := two_zpow_pos (lastPlace x)
  rcases hx.nonneg.eq_or_lt with rfl | hpos
  · exact ⟨0, by simp, by simp⟩
  rcases hx.cases hpos with ⟨n, hn⟩ | ⟨hsmall, hlarge⟩
  · refine ⟨n, hn, ?_⟩
    have hdiv : x / 2 ^ lastPlace x = n := (div_eq_iff hunit.ne').mpr hn
    simp [hdiv]
  · rw [le_div_iff₀ hunit] at hlarge
    exact absurd hlarge hsmall.not_ge

end RoundsTo

end SpecScribe.Number
