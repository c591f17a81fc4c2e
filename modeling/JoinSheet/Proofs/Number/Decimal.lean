import JoinSheet.Number.Reading
import JoinSheet.Proofs.Number.Rounding

/-!
# Decimals and doubles

A decimal that is in the interval of a double is read as this double, whether its digits and its
power of ten are doubles themselves or not.

## Main statements

* `Binary.Contains.toFloatMagnitude_eq` — what a decimal in the interval of a double is read as.
-/

namespace JoinSheet

/-! ## Small powers of ten -/

namespace Number

open Float.Model Float.Model.UnpackedFloat

/-- The mantissa of a power of ten that is a double. -/
def powerMantissa (k : ℕ) : ℕ := 10 ^ k * 2 ^ 52 / 2 ^ (10 ^ k).log2

/-- The exponent of a power of ten that is a double. -/
def powerExponent (k : ℕ) : ℤ := (10 ^ k).log2 - 52

theorem isNormal_power {k : ℕ} (small : k < 23) : IsNormal (powerMantissa k) (powerExponent k) := by
  have normal : ∀ k : Fin 23, (powerMantissa k).log2 = 52 ∧ -1074 ≤ powerExponent k ∧
      powerExponent k ≤ 971 := by decide +kernel
  obtain ⟨bits, lower, upper⟩ := normal ⟨k, small⟩
  exact ⟨bits, lower, upper⟩

theorem power_eq {k : ℕ} (small : k < 23) :
    Float.exactlyRepresentablePowersOfTen[k] =
      .ofModel (.pack (.finite .positive (powerMantissa k) (powerExponent k)
        (isNormal_power small).pos)) := by
  have same : ∀ k : Fin 23, Float.exactlyRepresentablePowersOfTen[k] =
      .ofModel (.pack (.finite .positive (powerMantissa k) (powerExponent k)
        (isNormal_power k.isLt).pos)) := by
    decide +kernel
  exact same ⟨k, small⟩

/-- There are no other bits of such a power of ten than those of its mantissa. -/
theorem powerMantissa_mul {k : ℕ} (small : k < 23) :
    (powerMantissa k * 2 ^ powerExponent k : ℚ) = 10 ^ k := by
  have exact : ∀ k : Fin 23, powerMantissa k * 2 ^ (10 ^ k.val).log2 = 10 ^ k.val * 2 ^ 52 := by
    decide +kernel
  have exact : (powerMantissa k * 2 ^ (10 ^ k).log2 : ℚ) = 10 ^ k * 2 ^ 52 := by
    exact_mod_cast exact ⟨k, small⟩
  rw [powerExponent, zpow_sub₀ two_ne_zero, zpow_natCast, ← mul_div_assoc, exact]
  exact mul_div_cancel_right₀ _ (by positivity)

theorem whole_mul {n : ℕ} (hn : n ≠ 0) (small : n < 2 ^ 53) :
    ((n <<< (52 - n.log2) : ℕ) * 2 ^ ((n.log2 : ℤ) - 52) : ℚ) = n := by
  have bits : n.log2 < 53 := (Nat.log2_lt hn).2 small
  have exponent : (n.log2 : ℤ) - 52 = -(52 - n.log2 : ℕ) := by omega
  rw [exponent, zpow_neg, zpow_natCast, Nat.shiftLeft_eq, Nat.cast_mul, Nat.cast_pow, Nat.cast_two]
  exact mul_inv_cancel_right₀ (by positivity) _

theorem whole_eq_finite {n : ℕ} (hn : 0 < n) (small : n < 2 ^ 53) :
    whole n = .finite .positive (n <<< (52 - n.log2)) (n.log2 - 52)
      (isNormal_whole hn.ne' small).pos := by
  rw [whole, dif_neg hn.ne']

theorem ofModel_div (a b : Float.Model) : Float.ofModel a / Float.ofModel b =
    .ofModel (.pack (UnpackedFloat.div Format.binary64 a.unpack b.unpack)) := rfl

theorem IsNormal.model_unpack_pack {m : ℕ} {e : ℤ} (h : IsNormal m e) (s : Sign) :
    (Float.Model.pack (.finite s m e h.pos)).unpack = .finite s m e h.pos := h.unpack_pack s

end Number

namespace Binary

open Number Float.Model Float.Model.UnpackedFloat

variable {b : Binary} (hb : b.IsDouble)

/-- The double with a mantissa and an exponent. -/
def IsDouble.toFloat (hb : b.IsDouble) : Float :=
  .ofModel (.pack (.finite .positive b.mantissa b.exponent hb.pos))

/-! ## Arithmetic -/

section Arithmetic

variable {m₁ m₂ : ℕ} {e₁ e₂ : ℤ} (h₁ : IsNormal m₁ e₁) (h₂ : IsNormal m₂ e₂)

include h₁ h₂

theorem Contains.normal_mul (h : b.Contains (m₁ * 2 ^ e₁ * (m₂ * 2 ^ e₂))) :
    Float.ofModel (.pack (.finite .positive m₁ e₁ h₁.pos)) *
      .ofModel (.pack (.finite .positive m₂ e₂ h₂.pos)) = hb.toFloat := by
  have wide : 2 ^ 52 ≤ m₁ * m₂ := calc
    2 ^ 52 ≤ m₁ := h₁.log2 ▸ Nat.log2_self_le h₁.pos.ne'
    _ ≤ m₁ * m₂ := Nat.le_mul_of_pos_right _ h₂.pos
  rw [ofModel_mul, h₁.model_unpack_pack, h₂.model_unpack_pack, h.mul_eq hb h₁.pos h₂.pos wide]
  rfl

theorem Contains.normal_div (h : b.Contains (m₁ * 2 ^ e₁ / (m₂ * 2 ^ e₂))) :
    Float.ofModel (.pack (.finite .positive m₁ e₁ h₁.pos)) /
      .ofModel (.pack (.finite .positive m₂ e₂ h₂.pos)) = hb.toFloat := by
  rw [ofModel_div, h₁.model_unpack_pack, h₂.model_unpack_pack, h.div_eq hb h₁.pos h₂.pos]
  rfl

end Arithmetic

/-! ## Decimals -/

variable {v : ℚ} {n k : ℕ}

/-- Digits before the point, with zeros behind them. -/
theorem Contains.ofScientific_zeros (h : b.Contains (n * 10 ^ k)) (hn : 0 < n) (bound : k ≤ 2048) :
    Float.ofScientific n false k = hb.toFloat := by
  rw [Float.ofScientific]
  split
  next fast =>
    obtain ⟨small, few⟩ := fast
    have listed : k < Float.exactlyRepresentablePowersOfTen.size := Nat.lt_succ_of_le few
    change n.toUInt64.toFloat * Float.exactlyRepresentablePowersOfTen[k] = _
    rw [toFloat_toUInt64 small, power_eq listed, whole_eq_finite hn small]
    refine Contains.normal_mul hb (isNormal_whole hn.ne' small) (isNormal_power listed) ?_
    rwa [whole_mul hn.ne' small, powerMantissa_mul listed]
  next =>
    have digits : 0 < n <<< 53 := Nat.shiftLeft_pos_iff.2 hn
    have power : 0 < 10 ^ k := Nat.pow_pos (by decide)
    have product : b.Contains ((n <<< 53 : ℕ) * 2 ^ (-53 : ℤ) * ((10 ^ k : ℕ) * 2 ^ (0 : ℤ))) := by
      have same : ((n <<< 53 : ℕ) * 2 ^ (-53 : ℤ) * ((10 ^ k : ℕ) * 2 ^ (0 : ℤ)) : ℚ) =
          n * 10 ^ k := by
        have shift : (2 : ℚ) ^ (-53 : ℤ) = (2 ^ 53)⁻¹ := zpow_neg _ 53
        rw [shift, zpow_zero, mul_one, Nat.shiftLeft_eq, Nat.cast_mul, Nat.cast_pow, Nat.cast_pow,
          Nat.cast_two, mul_inv_cancel_right₀ (by positivity)]
        rfl
      rwa [same]
    have wide : 2 ^ 52 ≤ n <<< 53 * 10 ^ k := by
      refine le_trans ?_ (Nat.le_mul_of_pos_right _ power)
      rw [Nat.shiftLeft_eq]
      omega
    have slow : UnpackedFloat.ofScientific Format.binary64 n k =
        UnpackedFloat.mul Format.binary64 (.finite .positive (n <<< 53) (-53) digits)
          (.finite .positive (10 ^ k) 0 power) := by
      have bits : (2 : ℤ) ^ Format.binary64.exponentBits = 2048 := rfl
      rw [UnpackedFloat.ofScientific, dif_neg hn.ne', bits, if_neg (by omega), if_neg (by omega),
        if_pos (by omega)]
      rfl
    change Float.ofModel (.pack (UnpackedFloat.ofScientific Format.binary64 n k)) = _
    rw [slow, product.mul_eq hb digits power wide]
    rfl

/-- Digits around the point, or behind it. -/
theorem Contains.ofScientific_places (h : b.Contains (n / 10 ^ k)) (hn : 0 < n)
    (hk : 0 < k) (bound : k ≤ 2048 + n.log2) : Float.ofScientific n true k = hb.toFloat := by
  rw [Float.ofScientific]
  split
  next fast =>
    obtain ⟨small, few⟩ := fast
    have listed : k < Float.exactlyRepresentablePowersOfTen.size := Nat.lt_succ_of_le few
    change n.toUInt64.toFloat / Float.exactlyRepresentablePowersOfTen[k] = _
    rw [toFloat_toUInt64 small, power_eq listed, whole_eq_finite hn small]
    refine Contains.normal_div hb (isNormal_whole hn.ne' small) (isNormal_power listed) ?_
    rwa [whole_mul hn.ne' small, powerMantissa_mul listed]
  next =>
    have power : 0 < 10 ^ k := Nat.pow_pos (by decide)
    have quotient : b.Contains (n * 2 ^ (0 : ℤ) / ((10 ^ k : ℕ) * 2 ^ (0 : ℤ))) := by
      have same : (n * 2 ^ (0 : ℤ) / ((10 ^ k : ℕ) * 2 ^ (0 : ℤ)) : ℚ) = n / 10 ^ k := by simp
      rwa [same]
    have slow : UnpackedFloat.ofScientific Format.binary64 n (-k) =
        UnpackedFloat.div Format.binary64 (.finite .positive n 0 hn)
          (.finite .positive (10 ^ k) 0 power) := by
      have bits : (2 : ℤ) ^ Format.binary64.exponentBits = 2048 := rfl
      have places : (- -(k : ℤ)).toNat = k := by omega
      rw [UnpackedFloat.ofScientific, dif_neg hn.ne', bits, if_neg (by omega), if_neg (by omega),
        if_neg (by omega)]
      simp only [places]
    have negative : Int.negOfNat k = -k := Int.negOfNat_eq
    change Float.ofModel (.pack (UnpackedFloat.ofScientific Format.binary64 n (.negOfNat k))) = _
    rw [negative, slow, quotient.div_eq hb hn power]
    rfl

/-! ## Orders of magnitude -/

theorem Contains.bounds (h : b.Contains v) (hb : b.IsDouble) :
    2 ^ (-1075 : ℤ) ≤ v ∧ v < 2 ^ (1024 : ℤ) := by
  have unit := two_zpow_pos (b.exponent - 2)
  constructor
  · have low : (2 : ℚ) ≤ b.low := by exact_mod_cast two_le_low hb
    calc (2 : ℚ) ^ (-1075 : ℤ) ≤ 2 ^ (b.exponent - 2 + (1 : ℕ)) :=
          zpow_le_zpow_right₀ one_le_two (by have := hb.least; omega)
      _ = 2 * 2 ^ (b.exponent - 2) := by rw [two_zpow_add, pow_one, mul_comm]
      _ ≤ b.low * 2 ^ (b.exponent - 2) := by gcongr
      _ ≤ v := h.lower
  · have high := high_lt hb
    calc v ≤ b.high * 2 ^ (b.exponent - 2) := h.upper
      _ < 2 ^ 55 * 2 ^ (b.exponent - 2) := by gcongr
      _ = 2 ^ (b.exponent - 2 + (55 : ℕ)) := by rw [two_zpow_add, mul_comm]
      _ ≤ 2 ^ (1024 : ℤ) := zpow_le_zpow_right₀ one_le_two (by have := hb.greatest; omega)

/-- The number of digits tells between which powers of ten a number is. -/
theorem bounds_of_length (hn : 0 < n) :
    10 ^ ((Nat.toDigits 10 n).length - 1) ≤ n ∧ n < 10 ^ (Nat.toDigits 10 n).length := by
  have some : 0 < (Nat.toDigits 10 n).length := Nat.length_toDigits_pos
  refine ⟨?_, (Nat.length_toDigits_le_iff (by decide) some).1 le_rfl⟩
  by_cases one : (Nat.toDigits 10 n).length - 1 = 0
  · rwa [one]
  · by_contra fewer
    have := (Nat.length_toDigits_le_iff (by decide) (by omega)).2 (not_le.1 fewer)
    omega

theorem ten_zpow_add (p : ℤ) (k : ℕ) : (10 : ℚ) ^ (p + k) = 10 ^ p * 10 ^ k := by
  rw [zpow_add₀ (by norm_num), zpow_natCast]

theorem powers_small : (2 : ℚ) ^ (1075 : ℤ) ≤ 10 ^ (331 : ℤ) := by
  have : 2 ^ 1075 ≤ 10 ^ 331 := by decide +kernel
  exact_mod_cast this

theorem powers_large : (2 : ℚ) ^ (1024 : ℤ) ≤ 10 ^ (310 : ℤ) := by
  have : 2 ^ 1024 ≤ 10 ^ 310 := by decide +kernel
  exact_mod_cast this

/-- Decimals in the interval of a double are not of an order of magnitude beyond all doubles. -/
theorem Contains.order_bounds {p : ℤ} (h : b.Contains (n * 10 ^ p)) (hb : b.IsDouble) (hn : 0 < n) :
    -330 ≤ (Nat.toDigits 10 n).length + p ∧ (Nat.toDigits 10 n).length + p ≤ 310 := by
  obtain ⟨lower, upper⟩ := h.bounds hb
  obtain ⟨least, greatest⟩ := bounds_of_length hn
  have some : 0 < (Nat.toDigits 10 n).length := Nat.length_toDigits_pos
  generalize (Nat.toDigits 10 n).length = length at *
  have unit : (0 : ℚ) < 10 ^ p := zpow_pos (by norm_num) p
  constructor
  · by_contra beyond
    have tiny : (n * 10 ^ p : ℚ) < 2 ^ (-1075 : ℤ) := calc
      (n * 10 ^ p : ℚ) < 10 ^ length * 10 ^ p := by
        have : (n : ℚ) < 10 ^ length := by exact_mod_cast greatest
        gcongr
      _ = 10 ^ (p + length) := by rw [ten_zpow_add, mul_comm]
      _ ≤ 10 ^ (-331 : ℤ) := zpow_le_zpow_right₀ (by norm_num) (by omega)
      _ ≤ 2 ^ (-1075 : ℤ) := by
        rw [zpow_neg, zpow_neg]
        exact inv_anti₀ (by positivity) powers_small
    exact absurd lower tiny.not_ge
  · by_contra beyond
    have huge : (2 : ℚ) ^ (1024 : ℤ) ≤ n * 10 ^ p := calc
      (2 : ℚ) ^ (1024 : ℤ) ≤ 10 ^ (310 : ℤ) := powers_large
      _ ≤ 10 ^ (p + (length - 1 : ℕ)) := zpow_le_zpow_right₀ (by norm_num) (by omega)
      _ = 10 ^ (length - 1) * 10 ^ p := by rw [ten_zpow_add, mul_comm]
      _ ≤ n * 10 ^ p := by
        have : (10 ^ (length - 1) : ℚ) ≤ n := by exact_mod_cast least
        gcongr
    exact absurd upper huge.not_gt

/-- A decimal in the interval of a double is read as this double. -/
theorem Contains.toFloatMagnitude_eq {p : ℤ} (h : b.Contains (n * 10 ^ p)) :
    Numeral.toFloatMagnitude n p = hb.toFloat := by
  have hn : 0 < n := by
    refine Nat.pos_of_ne_zero ?_
    rintro rfl
    simpa using h.pos hb
  obtain ⟨notSmall, notLarge⟩ := h.order_bounds hb hn
  have some : 0 < (Nat.toDigits 10 n).length := Nat.length_toDigits_pos
  have few : (Nat.toDigits 10 n).length ≤ n.log2 + 1 :=
    (Nat.length_toDigits_le_iff (by decide) (Nat.succ_pos _)).2 <|
      Nat.lt_log2_self.trans_le (Nat.pow_le_pow_left (by decide) _)
  have within : Numeral.toFloatMagnitude n p = Float.ofScientific n (p < 0) p.natAbs := by
    rw [Numeral.toFloatMagnitude, Int.ofNat_eq_natCast, if_neg (by omega), if_neg (by omega)]
  rw [within]
  obtain ⟨k, rfl | rfl⟩ := p.eq_nat_or_neg
  · have positive : ¬(k : ℤ) < 0 := by omega
    rw [zpow_natCast] at h
    rw [decide_eq_false positive, Int.natAbs_natCast]
    exact h.ofScientific_zeros hb hn (by omega)
  · by_cases none : k = 0
    · subst none
      exact Contains.ofScientific_zeros hb (k := 0) (by simpa using h) hn (by decide)
    · have negative : -(k : ℤ) < 0 := by omega
      rw [zpow_neg, zpow_natCast, ← div_eq_mul_inv] at h
      rw [decide_eq_true negative, Int.natAbs_neg, Int.natAbs_natCast]
      exact h.ofScientific_places hb hn (Nat.pos_of_ne_zero none) (by omega)

end Binary

end JoinSheet
