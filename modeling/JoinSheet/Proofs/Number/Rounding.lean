import JoinSheet.Number.Shortest
import JoinSheet.Proofs.Number.Counting

/-!
# Rounding

The product and the quotient of two numbers are rounded to the nearest number, halves going to the
even one. So a positive rational number that is in the interval of a double is rounded to this
double, whichever way it has been computed.

## Main definitions

* `Number.Represents` — what a mantissa and the two bits behind it tell about a rational number.
* `Number.Rounds` — the natural number nearest to a rational number.
* `Binary.IsDouble` — mantissas and exponents of positive doubles.
* `Binary.Contains` — the rational numbers that round to a double.

## Main statements

* `Number.roundWithAccuracy_eq` — what rounds to a double.
* `Number.mul_eq`, `Number.div_eq` — products and quotients that round to a double.
-/

namespace JoinSheet

namespace Number

open Float.Model Float.Model.UnpackedFloat

/-! ## Mantissas -/

/-- The mantissa and the bit behind it are the first bits of `x`, and there are others behind them
if the sticky bit says so. -/
def Represents (em : ExtendedMantissa) (x : ℚ) : Prop :=
  if em.stickyBit then
    (2 * em.mantissa + em.roundBit.toNat : ℕ) < 2 * x ∧
      2 * x < (2 * em.mantissa + em.roundBit.toNat + 1 : ℕ)
  else 2 * x = (2 * em.mantissa + em.roundBit.toNat : ℕ)

/-- The nearest natural number, which is the even one of two that are equally near. -/
structure Rounds (x : ℚ) (n : ℕ) : Prop where
  lower : 2 * (n : ℚ) - 1 ≤ 2 * x
  upper : 2 * x ≤ 2 * n + 1
  tie : n % 2 = 1 → 2 * (n : ℚ) - 1 < 2 * x ∧ 2 * x < 2 * n + 1

namespace Represents

variable {em : ExtendedMantissa} {x : ℚ} {n : ℕ}

theorem exact (m : ℕ) : Represents ⟨m, false, false⟩ m := by
  simp [Represents]

theorem le (h : Represents em x) : (em.mantissa : ℚ) ≤ x := by
  obtain ⟨m, round, sticky⟩ := em
  cases round <;> cases sticky <;> simp [Represents] at h ⊢ <;> linarith

theorem lt (h : Represents em x) : x < em.mantissa + 1 := by
  obtain ⟨m, round, sticky⟩ := em
  cases round <;> cases sticky <;> simp [Represents] at h ⊢ <;> linarith

theorem shiftRightOne (h : Represents em x) : Represents em.shiftRightOne (x / 2) := by
  obtain ⟨m, round, sticky⟩ := em
  -- The bit that is shifted out is read as the bit behind the mantissa.
  have last : (m % 2 != 0).toNat = m % 2 := by
    obtain even | odd := Nat.mod_two_eq_zero_or_one m
    · rw [even]
      rfl
    · rw [odd]
      rfl
  have bits : 2 * (m / 2) + (m % 2 != 0).toNat = m := by omega
  have double : 2 * (x / 2) = x := by ring
  simp only [Represents, ExtendedMantissa.shiftRightOne, bits, double]
  cases sticky with
  | true =>
    cases round <;> simp [Represents] at h ⊢ <;> constructor <;> linarith
  | false =>
    -- The bit behind the mantissa becomes one of those that are only remembered as being there.
    cases round with
    | true =>
      simp [Represents] at h ⊢
      constructor <;> linarith
    | false =>
      simp [Represents] at h ⊢
      linarith

theorem shiftRight (h : Represents em x) (k : ℕ) : Represents (em >>> k) (x / 2 ^ k) := by
  induction k with
  | zero =>
    rw [pow_zero, div_one]
    exact h
  | succ k ih =>
    rw [pow_succ, ← div_div]
    exact ih.shiftRightOne

/-- The nearest natural number is what the mantissa is rounded to. -/
theorem roundedMantissa_eq (h : Represents em x) (near : Rounds x n) : em.roundedMantissa = n := by
  obtain ⟨m, round, sticky⟩ := em
  obtain ⟨lower, upper, tie⟩ := near
  simp only [Represents] at h
  cases round with
  | false =>
    -- Less than a half is left behind the mantissa.
    have rounded : (⟨m, false, sticky⟩ : ExtendedMantissa).roundedMantissa = m := by
      cases sticky <;> rfl
    rw [rounded]
    have below : (2 * n : ℚ) < 2 * m + 2 := by cases sticky <;> simp at h <;> linarith
    have above : (2 * m : ℚ) < 2 * n + 2 := by cases sticky <;> simp at h <;> linarith
    norm_cast at below above
    omega
  | true =>
    cases sticky with
    | true =>
      change m + 1 = n
      simp at h
      have below : (2 * n : ℚ) < 2 * m + 3 := by linarith
      have above : (2 * m : ℚ) < 2 * n := by linarith
      norm_cast at below above
      omega
    | false =>
      change m + m % 2 = n
      simp at h
      have below : (2 * n : ℚ) ≤ 2 * m + 2 := by linarith
      have above : (2 * m : ℚ) ≤ 2 * n := by linarith
      -- Both neighbours are equally near.
      have even : n % 2 = 0 := by
        by_contra odd
        obtain ⟨strictLower, strictUpper⟩ := tie (by omega)
        have below : (2 * n : ℚ) < 2 * m + 2 := by linarith
        have above : (2 * m : ℚ) < 2 * n := by linarith
        norm_cast at below above
        omega
      norm_cast at below above
      omega

end Represents

/-- A fraction by its whole part, and by how its rest compares to a half. -/
theorem represents_fraction (n : ℕ) {d : ℕ} (hd : 0 < d) :
    Represents (.ofMantissaAndAccuracy (n / d) (accuracyOfFraction (n % d) d)) (n / d : ℚ) := by
  have positive : (0 : ℚ) < d := Nat.cast_pos.2 hd
  have whole : (n : ℚ) / d = (n / d : ℕ) + (n % d : ℕ) / d := by
    have : (n : ℚ) = d * (n / d : ℕ) + (n % d : ℕ) := by exact_mod_cast (Nat.div_add_mod n d).symm
    field_simp
    linarith
  have rest : ((n % d : ℕ) : ℚ) / d < 1 := by
    rw [div_lt_one positive]
    exact_mod_cast Nat.mod_lt n hd
  rw [whole]
  generalize n / d = q
  generalize n % d = r at rest
  by_cases none : r = 0
  · subst none
    simp [accuracyOfFraction, ExtendedMantissa.ofMantissaAndAccuracy, Represents]
  · have some : (0 : ℚ) < r / d := div_pos (Nat.cast_pos.2 (Nat.pos_of_ne_zero none)) positive
    have half : (2 * r : ℚ) / d = 2 * (r / d) := by ring
    rw [accuracyOfFraction, if_neg none]
    obtain less | same | more := lt_trichotomy (2 * r) d
    · have : (2 * r : ℚ) / d < 1 := by
        rw [div_lt_one positive]
        exact_mod_cast less
      rw [Nat.compare_eq_lt.2 less]
      simp only [ExtendedMantissa.ofMantissaAndAccuracy, Represents, Bool.toNat_false, if_true]
      constructor <;> push_cast <;> linarith
    · have : (2 * r : ℚ) / d = 1 := by
        rw [div_eq_one_iff_eq positive.ne']
        exact_mod_cast same
      rw [Nat.compare_eq_eq.2 same]
      simp [ExtendedMantissa.ofMantissaAndAccuracy, Represents]
      linarith
    · have : 1 < (2 * r : ℚ) / d := by
        rw [one_lt_div positive]
        exact_mod_cast more
      rw [Nat.compare_eq_gt.2 more]
      simp only [ExtendedMantissa.ofMantissaAndAccuracy, Represents, Bool.toNat_true, if_true]
      constructor <;> push_cast <;> linarith

/-! ## Exponents -/

theorem targetExponent_eq (m : ℕ) (e : ℤ) :
    Format.binary64.targetExponent (totalExponent m e) = max (m.log2 + e - 52) (-1074) := by
  have bits : Format.binary64.mantissaBits = 53 := rfl
  have least : Format.binary64.minExponent = -1074 := rfl
  rw [Format.targetExponent, totalExponent, bits, least]
  omega

theorem two_zpow_pos (e : ℤ) : (0 : ℚ) < 2 ^ e := zpow_pos two_pos e

theorem two_zpow_add (e : ℤ) (k : ℕ) : (2 : ℚ) ^ (e + k) = 2 ^ e * 2 ^ k := by
  rw [zpow_add₀ two_ne_zero, zpow_natCast]

theorem mantissa_ofMantissaAndAccuracy (m : ℕ) (accuracy : Accuracy) :
    (ExtendedMantissa.ofMantissaAndAccuracy m accuracy).mantissa = m := by
  match accuracy with
  | .exact | .inexact .lt | .inexact .eq | .inexact .gt => rfl

section Shift

variable {m : ℕ} {e : ℤ} {accuracy : Accuracy} {v : ℚ}
  (h : Represents (.ofMantissaAndAccuracy m accuracy) (v / 2 ^ e))
  (wide : e ≤ max (m.log2 + e - 52) (-1074))

include h wide

/-- The bits that are shifted out are not forgotten. -/
theorem exists_shiftToTargetExponent : ∃ em,
    shiftToTargetExponent Format.binary64 m e accuracy = (em, max (m.log2 + e - 52) (-1074)) ∧
      Represents em (v / 2 ^ max (m.log2 + e - 52) (-1074)) := by
  rw [shiftToTargetExponent, targetExponent_eq]
  generalize max (m.log2 + e - 52) (-1074) = t at wide
  obtain ⟨k, rfl⟩ := Int.le.dest wide
  refine ⟨ExtendedMantissa.ofMantissaAndAccuracy m accuracy >>> k, ?_, ?_⟩
  · simp [shiftToExponent]
  · rw [two_zpow_add, ← div_div]
    exact h.shiftRight k

/-- The exponent is that of a mantissa of 53 bits, or the least one. -/
theorem bounds_of_represents : v < 2 ^ (max (m.log2 + e - 52) (-1074) + 53) ∧
    (max (m.log2 + e - 52) (-1074) = -1074 ∨ 2 ^ (max (m.log2 + e - 52) (-1074) + 52) ≤ v) := by
  have le := h.le
  have lt := h.lt
  rw [mantissa_ofMantissaAndAccuracy] at le lt
  rw [le_div_iff₀ (two_zpow_pos e)] at le
  rw [div_lt_iff₀ (two_zpow_pos e)] at lt
  constructor
  · have bits : (m + 1 : ℚ) ≤ 2 ^ (m.log2 + 1) := by exact_mod_cast Nat.lt_log2_self
    calc v < (m + 1) * 2 ^ e := lt
      _ ≤ 2 ^ (m.log2 + 1) * 2 ^ e := by gcongr
      _ = 2 ^ (e + (m.log2 + 1 : ℕ)) := by rw [two_zpow_add, mul_comm]
      _ ≤ 2 ^ (max (m.log2 + e - 52) (-1074) + 53) :=
        zpow_le_zpow_right₀ one_le_two (by push_cast; omega)
  · by_cases least : max (m.log2 + e - 52) (-1074) = -1074
    · exact .inl least
    · -- Without a bit in the mantissa, the exponent would have to be the least one.
      have hm : m ≠ 0 := by
        rintro rfl
        rw [Nat.log2_zero] at least wide
        omega
      have bits : (2 : ℚ) ^ m.log2 ≤ m := by exact_mod_cast Nat.log2_self_le hm
      refine .inr ?_
      calc (2 : ℚ) ^ (max (m.log2 + e - 52) (-1074) + 52)
          = 2 ^ (e + (m.log2 : ℕ)) := by congr 1; omega
        _ = 2 ^ m.log2 * 2 ^ e := by rw [two_zpow_add, mul_comm]
        _ ≤ m * 2 ^ e := by gcongr
        _ ≤ v := le

end Shift

/-- A mantissa of at most 53 bits is not shifted. -/
theorem shiftToTargetExponent_small {m : ℕ} {e : ℤ} (small : m < 2 ^ 53) (least : -1074 ≤ e) :
    shiftToTargetExponent Format.binary64 m e .exact = (⟨m, false, false⟩, e) := by
  have bits : m.log2 ≤ 52 := by
    by_cases hm : m = 0
    · rw [hm, Nat.log2_zero]
      omega
    · have := (Nat.log2_lt hm).2 small
      omega
  have amount : (max (m.log2 + e - 52) (-1074) - e).toNat = 0 := by omega
  rw [shiftToTargetExponent, targetExponent_eq, shiftToExponent, amount, Int.natCast_zero,
    Int.add_zero]
  rfl

/-- What has been rounded up to 54 bits is shifted by one. -/
theorem shiftToTargetExponent_carry {e : ℤ} (least : -1074 ≤ e) :
    shiftToTargetExponent Format.binary64 (2 ^ 53) e .exact = (⟨2 ^ 52, false, false⟩, e + 1) := by
  have amount : (max (((2 ^ 53).log2 : ℕ) + e - 52) (-1074) - e).toNat = 1 := by
    rw [Nat.log2_two_pow]
    omega
  rw [shiftToTargetExponent, targetExponent_eq, shiftToExponent, amount]
  rfl

end Number

/-! ## Intervals of doubles -/

namespace Binary

/-- The mantissa and the exponent of a positive double. -/
structure IsDouble (b : Binary) : Prop where
  pos : 0 < b.mantissa
  small : b.mantissa < 2 ^ 53
  least : -1074 ≤ b.exponent
  greatest : b.exponent ≤ 971
  full : b.exponent = -1074 ∨ 2 ^ 52 ≤ b.mantissa
  step : b.atStep = true ↔ b.mantissa = 2 ^ 52 ∧ -1074 < b.exponent

/-- The numbers in the interval that rounds to a double. -/
structure Contains (b : Binary) (v : ℚ) : Prop where
  lower : b.low * 2 ^ (b.exponent - 2) ≤ v
  upper : v ≤ b.high * 2 ^ (b.exponent - 2)
  inner : b.mantissa % 2 = 1 → b.low * 2 ^ (b.exponent - 2) < v ∧ v < b.high * 2 ^ (b.exponent - 2)

variable {b : Binary} {v : ℚ}

theorem two_le_low (hb : b.IsDouble) : 2 ≤ b.low := by
  have := hb.pos
  rw [low]
  split <;> omega

theorem le_low (b : Binary) : 4 * b.mantissa ≤ b.low + 2 := by
  rw [low]
  split <;> omega

theorem high_lt (hb : b.IsDouble) : (b.high : ℚ) < 2 ^ 55 := by
  have small := hb.small
  have : b.high < 2 ^ 55 := by
    rw [high]
    omega
  exact_mod_cast this

theorem Contains.pos (h : b.Contains v) (hb : b.IsDouble) : 0 < v := by
  have low : (2 : ℚ) ≤ b.low := by exact_mod_cast two_le_low hb
  have := Number.two_zpow_pos (b.exponent - 2)
  exact lt_of_lt_of_le (by positivity) h.lower

open Number

/-- In quarters of the last place, the number is between the ends of the interval. -/
theorem Contains.quarters (h : b.Contains v) {u : ℚ} (hu : v = u * 2 ^ (b.exponent - 2)) :
    b.low ≤ u ∧ u ≤ b.high ∧ (b.mantissa % 2 = 1 → b.low < u ∧ u < b.high) := by
  have unit := two_zpow_pos (b.exponent - 2)
  obtain ⟨lower, upper, inner⟩ := hu ▸ h
  refine ⟨le_of_mul_le_mul_right lower unit, le_of_mul_le_mul_right upper unit, fun odd => ?_⟩
  exact ⟨lt_of_mul_lt_mul_right (inner odd).1 unit.le, lt_of_mul_lt_mul_right (inner odd).2 unit.le⟩

theorem Contains.exists_quarters (h : b.Contains v) : ∃ u, v = u * 2 ^ (b.exponent - 2) ∧
    b.low ≤ u ∧ u ≤ b.high ∧ (b.mantissa % 2 = 1 → b.low < u ∧ u < b.high) :=
  have whole : v = v / 2 ^ (b.exponent - 2) * 2 ^ (b.exponent - 2) :=
    (div_mul_cancel₀ v (two_zpow_pos _).ne').symm
  ⟨_, whole, h.quarters whole⟩

/-- With the exponent of the double, its mantissa is the nearest one. -/
theorem Contains.rounds (h : b.Contains v) : Rounds (v / 2 ^ b.exponent) b.mantissa := by
  obtain ⟨u, rfl, lower, upper, inner⟩ := h.exists_quarters
  have unit : (2 : ℚ) ^ b.exponent = 2 ^ (b.exponent - 2) * 4 := by
    rw [← Int.sub_add_cancel b.exponent 2, Int.add_sub_cancel]
    exact two_zpow_add (b.exponent - 2) 2
  have quarter : u * 2 ^ (b.exponent - 2) / 2 ^ b.exponent = u / 4 := by
    have := two_zpow_pos (b.exponent - 2)
    rw [unit]
    field_simp
  have low : (4 * b.mantissa : ℚ) ≤ b.low + 2 := by exact_mod_cast b.le_low
  have high : (b.high : ℚ) = 4 * b.mantissa + 2 := by simp [Binary.high]
  rw [quarter]
  refine ⟨by linarith, by linarith, fun odd => ?_⟩
  obtain ⟨strictLower, strictUpper⟩ := inner odd
  constructor <;> linarith

/-- The exponent that a number is rounded with is that of its double, except just below a power of
two, where it may be the next smaller one. -/
theorem Contains.exponent_eq (h : b.Contains v) (hb : b.IsDouble) {t : ℤ} (least : -1074 ≤ t)
    (below : v < 2 ^ (t + 53)) (above : t = -1074 ∨ 2 ^ (t + 52) ≤ v) :
    t = b.exponent ∨ t + 1 = b.exponent ∧ b.mantissa = 2 ^ 52 := by
  obtain ⟨u, rfl, lower, upper, -⟩ := h.exists_quarters
  have unit := two_zpow_pos (b.exponent - 2)
  have positive := hb.pos
  have small := hb.small
  obtain less | same | greater := lt_trichotomy t b.exponent
  · have full : 2 ^ 52 ≤ b.mantissa := hb.full.resolve_left (by omega)
    have within (k : ℕ) (hk : t + 53 ≤ b.exponent - 2 + k) : b.low < 2 ^ k := by
      have : u * 2 ^ (b.exponent - 2) < 2 ^ k * 2 ^ (b.exponent - 2) := calc
        u * 2 ^ (b.exponent - 2) < 2 ^ (t + 53) := below
        _ ≤ 2 ^ (b.exponent - 2 + k) := zpow_le_zpow_right₀ one_le_two hk
        _ = 2 ^ k * 2 ^ (b.exponent - 2) := by rw [two_zpow_add, mul_comm]
      exact_mod_cast lower.trans_lt (lt_of_mul_lt_mul_right this unit.le)
    have low := b.le_low
    have first := within 54 (by omega)
    refine .inr ⟨?_, by omega⟩
    by_contra other
    have second := within 53 (by omega)
    omega
  · exact .inl same
  · have large : 2 ^ (t + 52) ≤ u * 2 ^ (b.exponent - 2) := above.resolve_left fun least => by
      have := hb.least
      omega
    have : u * 2 ^ (b.exponent - 2) < 2 ^ (t + 52) := calc
      u * 2 ^ (b.exponent - 2) < 2 ^ 55 * 2 ^ (b.exponent - 2) := by
        gcongr
        exact upper.trans_lt (high_lt hb)
      _ = 2 ^ (b.exponent - 2 + (55 : ℕ)) := by rw [two_zpow_add, mul_comm]
      _ ≤ 2 ^ (t + 52) := zpow_le_zpow_right₀ one_le_two (by push_cast; omega)
    exact absurd large this.not_ge

/-- Just below a power of two, the nearest mantissa has a bit more. -/
theorem Contains.rounds_carry (h : b.Contains v) (hb : b.IsDouble) {t : ℤ}
    (next : t + 1 = b.exponent) (step : b.atStep) (below : v < 2 ^ (t + 53)) :
    Rounds (v / 2 ^ t) (2 ^ 53) := by
  have low : (2 ^ 54 : ℚ) - 1 = b.low := by
    have : b.low + 1 = 2 ^ 54 := by
      rw [Binary.low, if_pos step, (hb.step.1 step).1]
      rfl
    exact sub_eq_of_eq_add (by exact_mod_cast this.symm)
  obtain ⟨u, rfl, lower, -, -⟩ := h.exists_quarters
  have positive := two_zpow_pos (b.exponent - 2)
  have unit : (2 : ℚ) ^ t = 2 ^ (b.exponent - 2) * 2 := by
    have half : t = b.exponent - 2 + (1 : ℕ) := by omega
    rw [half, two_zpow_add, pow_one]
  have above : u < 2 ^ 54 := by
    refine lt_of_mul_lt_mul_right (below.trans_eq ?_) positive.le
    rw [← Nat.cast_ofNat (n := 53), two_zpow_add, unit]
    ring
  have half : u * 2 ^ (b.exponent - 2) / 2 ^ t = u / 2 := by
    rw [unit]
    field_simp
  rw [half]
  refine ⟨?_, ?_, fun odd => absurd odd (by decide)⟩
  · push_cast
    linarith
  · push_cast
    linarith

/-! ## Rounding to doubles -/

/-- A number in the interval of a double is rounded to this double. -/
theorem Contains.roundWithAccuracy_eq (h : b.Contains v) (hb : b.IsDouble) {m : ℕ} {e : ℤ}
    {accuracy : Float.Model.UnpackedFloat.Accuracy}
    (represents : Represents (.ofMantissaAndAccuracy m accuracy) (v / 2 ^ e))
    (wide : e ≤ max (m.log2 + e - 52) (-1074)) (s : Float.Model.UnpackedFloat.Sign) :
    Float.Model.UnpackedFloat.roundWithAccuracy Float.Model.Format.binary64 s m e accuracy =
      .finite s b.mantissa b.exponent hb.pos := by
  obtain ⟨em, shifted, represents'⟩ := exists_shiftToTargetExponent represents wide
  obtain ⟨below, above⟩ := bounds_of_represents represents wide
  have least : -1074 ≤ max (m.log2 + e - 52) (-1074) := le_max_right _ _
  generalize max (m.log2 + e - 52) (-1074) = t at *
  unfold Float.Model.UnpackedFloat.roundWithAccuracy
  obtain rfl | ⟨next, mantissa⟩ := h.exponent_eq hb least below above
  · simp only [shifted, represents'.roundedMantissa_eq h.rounds,
      shiftToTargetExponent_small hb.small hb.least]
    rw [dif_neg hb.pos.ne']
  · have step : b.atStep := hb.step.2 ⟨mantissa, by omega⟩
    simp only [shifted, represents'.roundedMantissa_eq (h.rounds_carry hb next step below),
      shiftToTargetExponent_carry least]
    rw [dif_neg (by decide)]
    congr 1
    exact mantissa.symm

section Arithmetic

open Float.Model Float.Model.UnpackedFloat

variable (hb : b.IsDouble) {s₁ s₂ : Sign} {m₁ m₂ : ℕ} {e₁ e₂ : ℤ} (h₁ : 0 < m₁) (h₂ : 0 < m₂)

/-- A product in the interval of a double is this double. -/
theorem Contains.mul_eq (h : b.Contains (m₁ * 2 ^ e₁ * (m₂ * 2 ^ e₂)))
    (wide : 2 ^ 52 ≤ m₁ * m₂) :
    UnpackedFloat.mul Format.binary64 (.finite s₁ m₁ e₁ h₁) (.finite s₂ m₂ e₂ h₂) =
      .finite (s₁ * s₂) b.mantissa b.exponent hb.pos := by
  have bits : 52 ≤ (m₁ * m₂).log2 := (Nat.le_log2 (by positivity)).2 wide
  refine h.roundWithAccuracy_eq hb ?_ (by omega) (s₁ * s₂)
  have product : (m₁ * 2 ^ e₁ * (m₂ * 2 ^ e₂) / 2 ^ (e₁ + e₂) : ℚ) = (m₁ * m₂ : ℕ) := by
    have := two_zpow_pos e₁
    have := two_zpow_pos e₂
    rw [zpow_add₀ two_ne_zero]
    push_cast
    field_simp
  rw [product]
  exact .exact _

/-- A quotient in the interval of a double is this double. -/
theorem Contains.div_eq (h : b.Contains (m₁ * 2 ^ e₁ / (m₂ * 2 ^ e₂))) :
    UnpackedFloat.div Format.binary64 (.finite s₁ m₁ e₁ h₁) (.finite s₂ m₂ e₂ h₂) =
      .finite (s₁ / s₂) b.mantissa b.exponent hb.pos := by
  have target : Format.binary64.targetExponent (totalExponent m₁ e₁ - totalExponent m₂ e₂) =
      max (m₁.log2 + e₁ - (m₂.log2 + e₂) - 53) (-1074) := by
    have bits : Format.binary64.mantissaBits = 53 := rfl
    have least : Format.binary64.minExponent = -1074 := rfl
    rw [Format.targetExponent, totalExponent, totalExponent, bits, least]
    omega
  have rounded : UnpackedFloat.div Format.binary64 (.finite s₁ m₁ e₁ h₁) (.finite s₂ m₂ e₂ h₂) =
      roundWithAccuracy Format.binary64 (s₁ / s₂) (divCore Format.binary64 m₁ e₁ m₂ e₂).1
        (divCore Format.binary64 m₁ e₁ m₂ e₂).2.1 (divCore Format.binary64 m₁ e₁ m₂ e₂).2.2 := rfl
  rw [rounded]
  simp only [divCore, target]
  have le : min (e₁ - e₂) (max (m₁.log2 + e₁ - (m₂.log2 + e₂) - 53) (-1074)) ≤ e₁ - e₂ :=
    min_le_left _ _
  have wide : min (e₁ - e₂) (max (m₁.log2 + e₁ - (m₂.log2 + e₂) - 53) (-1074)) ≤
      max (m₁.log2 + e₁ - (m₂.log2 + e₂) - 53) (-1074) := min_le_right _ _
  generalize min (e₁ - e₂) _ = e at le wide ⊢
  obtain ⟨k, difference⟩ := Int.le.dest le
  have amount : (e₁ - e₂ - e).toNat = k := by omega
  rw [amount]
  refine h.roundWithAccuracy_eq hb ?_ ?_ (s₁ / s₂)
  · have fraction : (m₁ * 2 ^ e₁ / (m₂ * 2 ^ e₂) / 2 ^ e : ℚ) = (m₁ <<< k : ℕ) / m₂ := by
      have exponent : e₁ = e₂ + e + k := by omega
      have := two_zpow_pos e₂
      have := two_zpow_pos e
      rw [exponent, two_zpow_add, zpow_add₀ two_ne_zero, Nat.shiftLeft_eq]
      push_cast
      field_simp
    rw [fraction]
    exact represents_fraction _ h₂
  · by_cases least : e ≤ -1074
    · exact le_max_of_le_right least
    · -- There are so many zeros behind the dividend that the quotient has 53 bits.
      have zeros : m₂.log2 + 53 ≤ m₁.log2 + k := by omega
      have quotient : 2 ^ 52 ≤ m₁ <<< k / m₂ := by
        rw [Nat.le_div_iff_mul_le h₂, Nat.shiftLeft_eq]
        calc 2 ^ 52 * m₂ ≤ 2 ^ 52 * 2 ^ (m₂.log2 + 1) :=
              Nat.mul_le_mul_left _ Nat.lt_log2_self.le
          _ = 2 ^ (m₂.log2 + 53) := by rw [← Nat.pow_add]; congr 1; omega
          _ ≤ 2 ^ (m₁.log2 + k) := Nat.pow_le_pow_right two_pos zeros
          _ = 2 ^ m₁.log2 * 2 ^ k := Nat.pow_add ..
          _ ≤ m₁ * 2 ^ k := Nat.mul_le_mul_right _ (Nat.log2_self_le h₁.ne')
      have bits := (Nat.le_log2 (by omega : m₁ <<< k / m₂ ≠ 0)).2 quotient
      omega

end Arithmetic

end Binary

end JoinSheet
