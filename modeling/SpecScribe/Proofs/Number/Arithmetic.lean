import Mathlib
import SpecScribe.Number.Binary
import SpecScribe.Proofs.Number.Double

/-!
Arithmetic on doubles that are not negative. The sum, the difference and the quotient of doubles,
and the double nearest to a quotient of naturals, are the exact results, rounded. Doubles are
ordered as the numbers that they stand for.
-/

namespace SpecScribe.Number

open Float.Model Float.Model.UnpackedFloat

/-! ### Operations -/

section Operations

variable {a b : Float} {x y : ℚ}

lemma canonical_unpack (a : Float) : Canonical a.toModel.unpack := by
  cases h : a.toModel.unpack with
  | finite s m e hm => exact (unpack_finite h).1
  | _ => trivial

/-- A double that is not negative, as a mantissa and an exponent. -/
lemma unpack_cases (ha : valueOf? a = some x) (hx : 0 ≤ x) :
    (∃ s, a.toModel.unpack = .zero s ∧ x = 0) ∨
      ∃ m e hm, a.toModel.unpack = .finite .positive m e hm ∧ x = m * 2 ^ e := by
  rw [valueOf?] at ha
  cases h : a.toModel.unpack with
  | infinity s => rw [h] at ha; cases ha
  | notANumber => rw [h] at ha; cases ha
  | zero s => rw [h] at ha; cases ha; exact .inl ⟨s, rfl, rfl⟩
  | finite s m e hm =>
    rw [h] at ha
    obtain ⟨rfl, rfl⟩ := positive_of_nonneg ha hx
    exact .inr ⟨m, e, hm, rfl, rfl⟩

lemma representable_of_valueOf? (ha : valueOf? a = some x) (hx : 0 ≤ x) : Representable x := by
  obtain ⟨s, -, rfl⟩ | ⟨m, e, hm, h, rfl⟩ := unpack_cases ha hx
  · exact representable_zero
  · obtain ⟨⟨hm53, hmin, -⟩, -⟩ := unpack_finite h
    exact ⟨m, e, hm53, hmin, rfl⟩

/-- A double is the one next to its own value. -/
lemma rounded_unpack (ha : valueOf? a = some x) (hx : 0 ≤ x) :
    Rounded x ⟨.pack a.toModel.unpack⟩ :=
  rounded_pack hx (.self (representable_of_valueOf? ha hx)) (canonical_unpack a) ha

lemma rounded_zero (s : Sign) : Rounded 0 ⟨.pack (.zero s)⟩ :=
  rounded_pack le_rfl (.self representable_zero) trivial rfl

lemma rounded_normalize {n : ℤ} (hn : 0 ≤ n) (e : ℤ) :
    Rounded (n * 2 ^ e) ⟨.pack (normalize Format.binary64 n e .positive)⟩ := by
  unfold UnpackedFloat.normalize
  rcases hn.eq_or_lt with rfl | hpos
  · simpa using rounded_zero .positive
  · rw [Int.compare_eq_gt.mpr hpos]
    obtain ⟨v, hv, hcanonical, hvalue⟩ := round_roundsTo e (show 0 < n.toNat by omega)
    have hcast : ((n.toNat : ℕ) : ℚ) = n := by exact_mod_cast Int.toNat_of_nonneg hn
    rw [hcast] at hv
    exact rounded_pack (mul_nonneg (by exact_mod_cast hn) (two_zpow_pos e).le) hv hcanonical hvalue

lemma rounded_add (ha : valueOf? a = some x) (hb : valueOf? b = some y) (hx : 0 ≤ x)
    (hy : 0 ≤ y) : Rounded (x + y) (a + b) := by
  have ha' := rounded_unpack ha hx
  have hb' := rounded_unpack hb hy
  change Rounded _ ⟨.pack (UnpackedFloat.add _ a.toModel.unpack b.toModel.unpack)⟩
  obtain ⟨s, hua, rfl⟩ | ⟨m₁, e₁, hm₁, hua, rfl⟩ := unpack_cases ha hx <;>
    obtain ⟨s', hub, rfl⟩ | ⟨m₂, e₂, hm₂, hub, rfl⟩ := unpack_cases hb hy <;>
    rw [hua, hub]
  · rw [add_zero, UnpackedFloat.add]
    split_ifs <;> exact rounded_zero _
  · rw [hub] at hb'
    rw [zero_add]
    exact hb'
  · rw [hua] at ha'
    rw [add_zero]
    exact ha'
  · have h₁ := mul_two_zpow_eq_decreaseExponent m₁ (min_le_left e₁ e₂)
    have h₂ := mul_two_zpow_eq_decreaseExponent m₂ (min_le_right e₁ e₂)
    set d₁ := (decreaseExponent m₁ e₁ (min e₁ e₂)).1
    set d₂ := (decreaseExponent m₂ e₂ (min e₁ e₂)).1
    have hsum := rounded_normalize (show (0 : ℤ) ≤ d₁ + d₂ by positivity) (min e₁ e₂)
    push_cast at hsum
    rw [h₁, h₂, ← add_mul]
    exact hsum

lemma rounded_sub (ha : valueOf? a = some x) (hb : valueOf? b = some y) (hy : 0 ≤ y)
    (hle : y ≤ x) : Rounded (x - y) (a - b) := by
  have ha' := rounded_unpack ha (hy.trans hle)
  change Rounded _ ⟨.pack (UnpackedFloat.sub _ a.toModel.unpack b.toModel.unpack)⟩
  obtain ⟨s, hua, rfl⟩ | ⟨m₁, e₁, hm₁, hua, rfl⟩ := unpack_cases ha (hy.trans hle) <;>
    obtain ⟨s', hub, rfl⟩ | ⟨m₂, e₂, hm₂, hub, rfl⟩ := unpack_cases hb hy <;>
    rw [hua, hub]
  · rw [sub_zero, UnpackedFloat.sub]
    split_ifs <;> exact rounded_zero _
  · exact absurd hle (mantissa_mul_pos hm₂ e₂).not_ge
  · rw [hua] at ha'
    rw [sub_zero]
    exact ha'
  · have h₁ := mul_two_zpow_eq_decreaseExponent m₁ (min_le_left e₁ e₂)
    have h₂ := mul_two_zpow_eq_decreaseExponent m₂ (min_le_right e₁ e₂)
    set d₁ := (decreaseExponent m₁ e₁ (min e₁ e₂)).1
    set d₂ := (decreaseExponent m₂ e₂ (min e₁ e₂)).1
    rw [h₁, h₂] at hle ⊢
    have hd : d₂ ≤ d₁ := by exact_mod_cast le_of_mul_le_mul_right hle (two_zpow_pos _)
    have hdiff := rounded_normalize (show (0 : ℤ) ≤ d₁ - d₂ by omega) (min e₁ e₂)
    push_cast at hdiff
    rw [← sub_mul]
    exact hdiff

/-- A quotient begins at the place that the places of both numbers show, or one below it. -/
lemma log_sub_le (hx : 0 < x) (hy : 0 < y) :
    Int.log 2 x - Int.log 2 y ≤ Int.log 2 (x / y) + 1 := by
  have hxlog : (2 : ℚ) ^ Int.log 2 x ≤ x := (two_zpow_le_iff hx _).mpr le_rfl
  have hylog : y < 2 ^ (Int.log 2 y + 1) := (lt_two_zpow_iff hy _).mpr (Int.lt_succ _)
  rw [← sub_le_iff_le_add, ← two_zpow_le_iff (div_pos hx hy), le_div_iff₀ hy]
  calc 2 ^ (Int.log 2 x - Int.log 2 y - 1) * y
      ≤ 2 ^ (Int.log 2 x - Int.log 2 y - 1) * 2 ^ (Int.log 2 y + 1) :=
        mul_le_mul_of_nonneg_left hylog.le (two_zpow_pos _).le
    _ = 2 ^ Int.log 2 x := by
        rw [← two_zpow_add]
        ring_nf
    _ ≤ x := hxlog

lemma div_eq_add_mod (n : ℕ) {d : ℕ} (hd : 0 < d) :
    (n : ℚ) / d = (n / d : ℕ) + (n % d : ℕ) / d := by
  have hd' : (d : ℚ) ≠ 0 := by exact_mod_cast hd.ne'
  have hdiv : (n : ℚ) = d * (n / d : ℕ) + (n % d : ℕ) := by
    exact_mod_cast (Nat.div_add_mod n d).symm
  rw [div_eq_iff hd', add_mul, div_mul_cancel₀ _ hd']
  linarith

/-- The quotient of the mantissas, with as many places as are needed and a rest. -/
lemma divCore_spec {m₁ m₂ : ℕ} (e₁ e₂ : ℤ) (hm₁ : 0 < m₁) (hm₂ : 0 < m₂)
    (hq : 2 ^ (-1020 : ℤ) ≤ (m₁ * 2 ^ e₁ : ℚ) / (m₂ * 2 ^ e₂)) {m : ℕ} {e : ℤ} {acc : Accuracy}
    (h : divCore Format.binary64 m₁ e₁ m₂ e₂ = (m, e, acc)) :
    0 < m ∧ e ≤ lastPlace ((m₁ * 2 ^ e₁) / (m₂ * 2 ^ e₂)) ∧
      Represents (.ofMantissaAndAccuracy m acc) ((m₁ * 2 ^ e₁) / (m₂ * 2 ^ e₂) / 2 ^ e) := by
  have hunit₁ := two_zpow_pos e₁
  have hunit₂ := two_zpow_pos e₂
  have hm₁' : (0 : ℚ) < m₁ := by exact_mod_cast hm₁
  have hm₂' : (0 : ℚ) < m₂ := by exact_mod_cast hm₂
  set x := (m₁ : ℚ) * 2 ^ e₁ with hx
  set y := (m₂ : ℚ) * 2 ^ e₂ with hy
  have hx0 : 0 < x := mantissa_mul_pos hm₁ e₁
  have hy0 : 0 < y := mantissa_mul_pos hm₂ e₂
  have hlogx : Int.log 2 x = m₁.log2 + e₁ := log_eq hm₁ le_rfl (by linarith)
  have hlogy : Int.log 2 y = m₂.log2 + e₂ := log_eq hm₂ le_rfl (by linarith)
  have hlog := log_sub_le hx0 hy0
  have hlarge : -1020 ≤ Int.log 2 (x / y) := (two_zpow_le_iff (div_pos hx0 hy0) _).mp hq
  simp only [divCore, targetExponent_eq, totalExponent, Prod.mk.injEq] at h
  obtain ⟨rfl, he, rfl⟩ := h
  rw [he]
  set n := m₁ <<< (e₁ - e₂ - e).toNat with hn
  have hquot : (n : ℚ) / m₂ = x / y / 2 ^ e := by
    have hexp : (2 : ℚ) ^ e₁ = 2 ^ (e₁ - e₂ - e).toNat * 2 ^ e₂ * 2 ^ e := by
      rw [← zpow_natCast, ← two_zpow_add, ← two_zpow_add]
      congr 1
      omega
    rw [hx, hy, hn, hexp, Nat.shiftLeft_eq]
    push_cast
    field_simp
  refine ⟨?_, ?_, ?_⟩
  · have hone : (1 : ℚ) ≤ n / m₂ := by
      rw [hquot, le_div_iff₀ (two_zpow_pos e), one_mul, two_zpow_le_iff (div_pos hx0 hy0)]
      omega
    rw [le_div_iff₀ hm₂', one_mul] at hone
    exact Nat.div_pos (by exact_mod_cast hone) hm₂
  · rw [lastPlace]
    omega
  · rw [← hquot, div_eq_add_mod n hm₂]
    exact .fraction _ (Nat.mod_lt n hm₂)

lemma rounded_div (ha : valueOf? a = some x) (hb : valueOf? b = some y) (hx : 0 < x) (hy : 0 < y)
    (hq : 2 ^ (-1020 : ℤ) ≤ x / y) : Rounded (x / y) (a / b) := by
  change Rounded _ ⟨.pack (UnpackedFloat.div _ a.toModel.unpack b.toModel.unpack)⟩
  obtain ⟨s, hua, rfl⟩ | ⟨m₁, e₁, hm₁, hua, rfl⟩ := unpack_cases ha hx.le
  · exact absurd hx (lt_irrefl 0)
  obtain ⟨s', hub, rfl⟩ | ⟨m₂, e₂, hm₂, hub, rfl⟩ := unpack_cases hb hy.le
  · exact absurd hy (lt_irrefl 0)
  rw [hua, hub]
  rcases hcore : divCore Format.binary64 m₁ e₁ m₂ e₂ with ⟨m, e, acc⟩
  obtain ⟨hm, he, hrep⟩ := divCore_spec e₁ e₂ hm₁ hm₂ hq hcore
  obtain ⟨v, hv, hcanonical, hvalue⟩ := roundWithAccuracy_roundsTo hm hrep he
  rw [UnpackedFloat.div, hcore]
  exact rounded_pack (div_pos hx hy).le hv hcanonical hvalue

lemma valueOf?_pack_eq_none {u : UnpackedFloat} (h : unpackedValue? u = none) :
    valueOf? ⟨.pack u⟩ = none := by
  cases u with
  | infinity s => cases s <;> rfl
  | notANumber => rfl
  | zero s => cases h
  | finite s m e hm => cases h

/-- What is not finite stays so. -/
lemma valueOf?_add_eq_none (h : valueOf? a = none ∨ valueOf? b = none) :
    valueOf? (a + b) = none := by
  change valueOf? ⟨.pack (UnpackedFloat.add _ a.toModel.unpack b.toModel.unpack)⟩ = none
  simp only [valueOf?] at h
  apply valueOf?_pack_eq_none
  generalize a.toModel.unpack = u at h
  generalize b.toModel.unpack = w at h
  cases u <;> cases w <;> simp [unpackedValue?, UnpackedFloat.add] at h ⊢
  split_ifs <;> rfl

lemma valueOf?_sub_eq_none (h : valueOf? a = none ∨ valueOf? b = none) :
    valueOf? (a - b) = none := by
  change valueOf? ⟨.pack (UnpackedFloat.sub _ a.toModel.unpack b.toModel.unpack)⟩ = none
  simp only [valueOf?] at h
  apply valueOf?_pack_eq_none
  generalize a.toModel.unpack = u at h
  generalize b.toModel.unpack = w at h
  cases u <;> cases w <;> simp [unpackedValue?, UnpackedFloat.sub] at h ⊢
  split_ifs <;> rfl

/-- Of two doubles with different exponents, the one with the larger exponent is larger. -/
lemma lt_of_exponent_lt {m₁ m₂ : ℕ} {e₁ e₂ : ℤ} {hm₁ : 0 < m₁} {hm₂ : 0 < m₂}
    (h₁ : Canonical (.finite .positive m₁ e₁ hm₁)) (h₂ : Canonical (.finite .positive m₂ e₂ hm₂))
    (he : e₁ < e₂) : (m₁ : ℚ) * 2 ^ e₁ < m₂ * 2 ^ e₂ := by
  obtain ⟨hlt, hmin, -⟩ := h₁
  obtain ⟨-, -, hfull⟩ := h₂
  have hlt' : (m₁ : ℚ) < 2 ^ 53 := by exact_mod_cast hlt
  have hge : (2 : ℚ) ^ 52 ≤ m₂ := by exact_mod_cast hfull.resolve_right (by omega)
  calc (m₁ : ℚ) * 2 ^ e₁ < 2 ^ 53 * 2 ^ e₁ := mul_lt_mul_of_pos_right hlt' (two_zpow_pos e₁)
    _ = 2 ^ 52 * 2 ^ (e₁ + 1) := by rw [two_zpow_add]; ring
    _ ≤ m₂ * 2 ^ e₂ := mul_le_mul hge (two_zpow_le he) (two_zpow_pos _).le m₂.cast_nonneg

/-- Doubles are ordered as the numbers that they stand for. -/
lemma lt_iff (ha : valueOf? a = some x) (hb : valueOf? b = some y) (hx : 0 ≤ x) (hy : 0 ≤ y) :
    a < b ↔ x < y := by
  change decide (UnpackedFloat.lt a.toModel.unpack b.toModel.unpack = true) = true ↔ _
  rw [decide_eq_true_iff]
  obtain ⟨s, hua, rfl⟩ | ⟨m₁, e₁, hm₁, hua, rfl⟩ := unpack_cases ha hx <;>
    obtain ⟨s', hub, rfl⟩ | ⟨m₂, e₂, hm₂, hub, rfl⟩ := unpack_cases hb hy <;>
    rw [hua, hub, UnpackedFloat.lt]
  · simp [UnpackedFloat.compare]
  · simp [UnpackedFloat.compare, mantissa_mul_pos hm₂ e₂]
  · simp [UnpackedFloat.compare, hx]
  · have h₁ := (unpack_finite hua).1
    have h₂ := (unpack_finite hub).1
    have hcompare : (UnpackedFloat.compare (.finite .positive m₁ e₁ hm₁)
        (.finite .positive m₂ e₂ hm₂) == some .lt) = true ↔ e₁ < e₂ ∨ e₁ = e₂ ∧ m₁ < m₂ := by
      simp [UnpackedFloat.compare, Ordering.then_eq_lt, Int.compare_eq_lt,
        Nat.compare_eq_lt]
    rw [hcompare]
    rcases lt_trichotomy e₁ e₂ with he | rfl | he
    · exact iff_of_true (.inl he) (lt_of_exponent_lt h₁ h₂ he)
    · rw [mul_lt_mul_iff_left₀ (two_zpow_pos e₁)]
      simp
    · exact iff_of_false (by omega) (lt_of_exponent_lt h₂ h₁ he).le.not_gt

end Operations

/-! ### The nearest double -/

lemma pow2_pos (n : ℕ) : 0 < pow2 n := Nat.pow_pos two_pos

lemma cast_pow2 (n : ℕ) : ((pow2 n : ℕ) : ℚ) = 2 ^ (n : ℤ) := by
  rw [pow2, Nat.pow_eq]
  push_cast
  rw [zpow_natCast]

lemma roundDiv_near (num : ℕ) {den : ℕ} (hden : 0 < den) :
    |(roundDiv num den : ℚ) - num / den| ≤ 1 / 2 := by
  have hden' : (0 : ℚ) < den := by exact_mod_cast hden
  have hlt : ((num % den : ℕ) : ℚ) / den < 1 := by
    rw [div_lt_one hden']
    exact_mod_cast Nat.mod_lt num hden
  have hnonneg : (0 : ℚ) ≤ (num % den : ℕ) / den := by positivity
  rw [div_eq_add_mod num hden, roundDiv, abs_le]
  split_ifs with h
  · have hhalf : (1 : ℚ) / 2 ≤ (num % den : ℕ) / den := by
      have hle : den ≤ 2 * (num % den) := by grind
      rw [div_le_div_iff₀ two_pos hden']
      exact_mod_cast (by omega : 1 * den ≤ num % den * 2)
    push_cast
    constructor <;> linarith
  · have hhalf : ((num % den : ℕ) : ℚ) / den ≤ 1 / 2 := by
      have hle : 2 * (num % den) ≤ den := by grind
      rw [div_le_div_iff₀ hden' two_pos]
      exact_mod_cast (by omega : num % den * 2 ≤ 1 * den)
    constructor <;> linarith

lemma scaled_spec (num : ℕ) {den : ℕ} (hden : 0 < den) (e : ℤ) :
    0 < (scaled num den e).2 ∧
      ((scaled num den e).1 : ℚ) / (scaled num den e).2 = num / den / 2 ^ e := by
  rw [scaled]
  split_ifs with h
  · refine ⟨Nat.mul_pos hden (pow2_pos _), ?_⟩
    dsimp only
    rw [Nat.cast_mul, cast_pow2, Int.toNat_of_nonneg h, div_div]
  · refine ⟨hden, ?_⟩
    dsimp only
    rw [Nat.cast_mul, cast_pow2, Int.toNat_of_nonneg (by omega), zpow_neg]
    field_simp

/-- The exponent is that of the last place. -/
lemma mantissaExp_eq {num den : ℕ} (hnum : 0 < num) (hden : 0 < den) :
    mantissaExp num den = lastPlace (num / den) := by
  have hnum' : (0 : ℚ) < num := by exact_mod_cast hnum
  have hden' : (0 : ℚ) < den := by exact_mod_cast hden
  have hlognum : Int.log 2 (num : ℚ) = num.log2 := by
    rw [log_eq hnum (e := 0) (by simp) (by simp), add_zero]
  have hlogden : Int.log 2 (den : ℚ) = den.log2 := by
    rw [log_eq hden (e := 0) (by simp) (by simp), add_zero]
  have hlow := log_sub_le hnum' hden'
  set x := (num : ℚ) / den with hx
  have hx0 : 0 < x := div_pos hnum' hden'
  have hhigh : Int.log 2 x ≤ num.log2 - den.log2 := by
    rw [le_sub_iff_add_le, ← hlognum, ← hlogden, ← two_zpow_le_iff hnum', two_zpow_add]
    calc (2 : ℚ) ^ Int.log 2 x * 2 ^ Int.log 2 (den : ℚ)
        ≤ x * den := mul_le_mul ((two_zpow_le_iff hx0 _).mpr le_rfl)
          ((two_zpow_le_iff hden' _).mpr le_rfl) (two_zpow_pos _).le hx0.le
      _ = num := div_mul_cancel₀ _ hden'.ne'
  obtain ⟨hd, hquot⟩ := scaled_spec num hden ((num.log2 : ℤ) - den.log2 - 52)
  rw [mantissaExp, lastPlace]
  generalize scaled num den ((num.log2 : ℤ) - den.log2 - 52) = nd at hd hquot
  obtain ⟨n, d⟩ := nd
  have hsmall : n / d < pow2 52 ↔ Int.log 2 x < num.log2 - den.log2 := by
    have hd' : (0 : ℚ) < d := by exact_mod_cast hd
    rw [Nat.div_lt_iff_lt_mul hd, ← Nat.cast_lt (α := ℚ), Nat.cast_mul, ← div_lt_iff₀ hd', hquot,
      div_lt_iff₀ (two_zpow_pos _), cast_pow2, ← two_zpow_add, lt_two_zpow_iff hx0]
    exact Eq.to_iff (by congr 1; push_cast; ring)
  dsimp only
  split_ifs with h
  · rw [hsmall] at h
    omega
  · rw [hsmall] at h
    omega

lemma toNat_packComponents_positive (e : BitVec 11) (m : BitVec 52) :
    (packComponents Format.binary64 .positive e m).toNat = e.toNat * 2 ^ 52 + m.toNat := by
  rw [packComponents, BitVec.toNat_append, BitVec.toNat_append,
    ← Nat.shiftLeft_add_eq_or_of_lt m.isLt, ← Nat.shiftLeft_add_eq_or_of_lt e.isLt]
  simp [Nat.shiftLeft_eq, Sign.toBitVec]

/-- The bits of a double that is not negative. -/
def bitsOf (m : ℕ) (e : ℤ) : ℕ :=
  if 971 < e then 2047 * 2 ^ 52
  else if m < 2 ^ 52 then m else (e + 1075).toNat * 2 ^ 52 + (m - 2 ^ 52)

lemma toNat_pack_finite {m : ℕ} {e : ℤ} {hm : 0 < m} (h : Canonical (.finite .positive m e hm)) :
    (UnpackedFloat.pack Format.binary64 (.finite .positive m e hm)).toNat = bitsOf m e := by
  rw [bitsOf]
  obtain ⟨hm53, hmin, hfull⟩ := h
  split_ifs with he hsmall
  · have hpack : UnpackedFloat.pack Format.binary64 (.finite .positive m e hm) =
        packedInfinity Format.binary64 .positive := pack_infinite he
    rw [hpack, packedInfinity, toNat_packComponents_positive]
    rfl
  · rw [pack_finite hm53 (by omega), if_neg (by omega), toNat_packComponents_positive]
    simp only [BitVec.toNat_ofNat]
    omega
  · rw [pack_finite hm53 (by omega), if_pos (by omega), toNat_packComponents_positive]
    simp only [BitVec.toNat_ofNat]
    omega

lemma nearestBits_eq (num den : ℕ) (hnum : num ≠ 0) {t : ℤ} (ht : mantissaExp num den = t) {r : ℕ}
    (hr : roundDiv (scaled num den t).1 (scaled num den t).2 = r) :
    nearestBits num den = if r < 2 ^ 53 then bitsOf r t else bitsOf (r / 2) (t + 1) := by
  rw [nearestBits, if_neg (by simpa using hnum), ht]
  dsimp only
  rw [hr]
  by_cases hlt : r < 2 ^ 53
  · rw [if_pos hlt, if_neg (show ¬ r ≥ pow2 53 from not_le.mpr hlt)]
    rfl
  · rw [if_neg hlt, if_pos (show r ≥ pow2 53 from not_lt.mp hlt)]
    rfl

/-- The bits are those of the double next to the quotient. -/
lemma nearestBits_roundsTo (num : ℕ) {den : ℕ} (hden : 0 < den) :
    ∃ u v, RoundsTo (num / den) v ∧ Canonical u ∧ unpackedValue? u = some v ∧
      nearestBits num den = (UnpackedFloat.pack Format.binary64 u).toNat := by
  rcases Nat.eq_zero_or_pos num with rfl | hnum
  · exact ⟨.zero .positive, 0, by simpa using RoundsTo.self representable_zero, trivial, rfl, rfl⟩
  set x := (num : ℚ) / den with hx
  have hx0 : 0 < x := div_pos (by exact_mod_cast hnum) (by exact_mod_cast hden)
  set t := lastPlace x with ht
  obtain ⟨hd, hquot⟩ := scaled_spec num hden t
  have hnear := roundDiv_near (scaled num den t).1 hd
  set r := roundDiv (scaled num den t).1 (scaled num den t).2 with hr
  rw [hquot] at hnear
  have hmin : -1074 ≤ t := le_max_right _ _
  obtain ⟨hle, hfull⟩ := near_mantissa hx0 hnear
  have hrounds : RoundsTo x (r * 2 ^ t) := ⟨r, rfl, hnear⟩
  have hexp : mantissaExp num den = t := mantissaExp_eq hnum hden
  rw [nearestBits_eq num den hnum.ne' hexp hr.symm]
  rcases hle.lt_or_eq with hlt | hcarry
  · rw [if_pos hlt]
    rcases Nat.eq_zero_or_pos r with hr0 | hr0
    · refine ⟨.zero .positive, 0, by simpa [hr0] using hrounds, trivial, rfl, ?_⟩
      rw [bitsOf, if_neg (by omega), if_pos (by omega), hr0]
      rfl
    · exact ⟨.finite .positive r t hr0, r * 2 ^ t, hrounds, ⟨hlt, hmin, hfull⟩,
        by simp [unpackedValue?, Sign.apply], (toNat_pack_finite ⟨hlt, hmin, hfull⟩).symm⟩
  · have hcanonical : Canonical (.finite .positive (2 ^ 52) (t + 1) (by norm_num)) :=
      ⟨by norm_num, by omega, .inl le_rfl⟩
    refine ⟨_, r * 2 ^ t, hrounds, hcanonical, ?_, ?_⟩
    · rw [unpackedValue?, Sign.apply, hcarry, two_zpow_add]
      push_cast
      ring_nf
    · rw [if_neg (by omega), toNat_pack_finite hcanonical, hcarry]
      norm_num

lemma valueOf?_ofBits (w : UInt64) :
    valueOf? (Float.ofBits w) =
      unpackedValue? (UnpackedFloat.unpack Format.binary64 w.toBitVec) := by
  change unpackedValue?
    (Float.Model.pack (UnpackedFloat.unpack Format.binary64 w.toBitVec)).unpack = _
  cases h : UnpackedFloat.unpack Format.binary64 w.toBitVec with
  | infinity s => cases s <;> rfl
  | notANumber => rfl
  | zero s => cases s <;> rfl
  | finite s m e hm =>
    obtain ⟨hcanonical, he⟩ := unpack_finite h
    rw [unpack_pack hcanonical he]

lemma rounded_nearest (num : ℕ) {den : ℕ} (hden : 0 < den) :
    Rounded (num / den) (nearest false num den) := by
  obtain ⟨u, v, hrounds, hcanonical, hvalue, hbits⟩ := nearestBits_roundsTo num hden
  have hpack : valueOf? (nearest false num den) = valueOf? ⟨.pack u⟩ := by
    have hword : (UInt64.ofNat (nearestBits num den + 0)).toBitVec =
        UnpackedFloat.pack Format.binary64 u := by
      apply BitVec.eq_of_toNat_eq
      rw [hbits]
      simp
    change valueOf? (Float.ofBits (UInt64.ofNat (nearestBits num den + 0))) = _
    rw [valueOf?_ofBits, hword]
    rfl
  have hround := rounded_pack (by positivity) hrounds hcanonical hvalue
  rwa [Rounded, ← hpack] at hround

/-- A whole number is converted to the double next to it. -/
lemma rounded_ofInt {n : ℤ} (hn : 0 ≤ n) : Rounded n (ofInt n) := by
  have hcast : ((n.natAbs : ℕ) : ℚ) / (1 : ℕ) = n := by
    rw [Nat.cast_natAbs, abs_of_nonneg hn, Nat.cast_one, div_one]
  rw [ofInt, decide_eq_false (not_lt.mpr hn), ← hcast]
  exact rounded_nearest n.natAbs one_pos

/-- Whole numbers of up to 53 bits are doubles. -/
lemma valueOf?_ofInt {n : ℤ} (h0 : 0 ≤ n) (h : n < 2 ^ 53) : valueOf? (ofInt n) = some (n : ℚ) := by
  have hcast : ((n.toNat : ℕ) : ℚ) = n := by exact_mod_cast Int.toNat_of_nonneg h0
  have hrep : Representable n := ⟨n.toNat, 0, by omega, by norm_num, by simp [hcast]⟩
  obtain ⟨v, hv, hround⟩ | ⟨-, hlarge⟩ := rounded_ofInt h0
  · rw [hv, hround.eq_of_representable hrep]
  · have hlt : (n : ℚ) < 2 ^ (53 : ℤ) := by exact_mod_cast h
    exact absurd (hlarge.trans_lt hlt) (two_zpow_le (by norm_num)).not_gt

end SpecScribe.Number
