import JoinSheet.Proofs.Number.Rounding

/-!
# The shortest decimal is in the interval

The search for the shortest decimal of a double goes through finer and finer grids. On the last one
the points are so close to each other that one of them must be in the interval of the double, so
that the search always ends with a decimal that rounds to it.

## Main statements

* `Binary.holds_iff` — which decimals are accepted.
* `Binary.contains_shortest` — the decimal that is found is in the interval.
-/

namespace JoinSheet

namespace Binary

open Number

variable {b : Binary} {place : ℤ} {n : ℕ}

/-! ## Grids -/

/-- The two sides of a comparison are counted in the same unit. -/
theorem exists_unit (b : Binary) (place : ℤ) : ∃ unit : ℚ, 0 < unit ∧
    ((b.quarter place).1 : ℚ) = 2 ^ (b.exponent - 2) * unit ∧
      ((b.quarter place).2 : ℚ) = 10 ^ place * unit := by
  have toNat {a : ℚ} (ha : a ≠ 0) (e : ℤ) : a ^ e.toNat = a ^ e * a ^ (-e).toNat := by
    rw [← zpow_natCast, ← zpow_natCast, ← zpow_add₀ ha]
    congr 1
    omega
  refine ⟨2 ^ (2 - b.exponent).toNat * 10 ^ (-place).toNat, by positivity, ?_, ?_⟩
  · simp only [quarter, Nat.pow_eq, Nat.cast_mul, Nat.cast_pow, Nat.cast_ofNat]
    rw [toNat two_ne_zero, neg_sub, mul_assoc]
  · simp only [quarter, Nat.pow_eq, Nat.cast_mul, Nat.cast_pow, Nat.cast_ofNat]
    rw [toNat (by norm_num : (10 : ℚ) ≠ 0)]
    ring

/-- A decimal is accepted exactly if it is in the interval. -/
theorem holds_iff : b.holds place n ↔ b.Contains (n * 10 ^ place) := by
  obtain ⟨unit, positive, num, den⟩ := b.exists_unit place
  have point : ((n * (b.quarter place).2 : ℕ) : ℚ) = n * 10 ^ place * unit := by
    rw [Nat.cast_mul, den, mul_assoc]
  have scale (a : ℕ) : ((a * (b.quarter place).1 : ℕ) : ℚ) = a * 2 ^ (b.exponent - 2) * unit := by
    rw [Nat.cast_mul, num, mul_assoc]
  have le {k l : ℕ} {x y : ℚ} (hk : (k : ℚ) = x * unit) (hl : (l : ℚ) = y * unit) :
      k ≤ l ↔ x ≤ y := by
    rw [← Nat.cast_le (α := ℚ), hk, hl, mul_le_mul_iff_of_pos_right positive]
  have lt {k l : ℕ} {x y : ℚ} (hk : (k : ℚ) = x * unit) (hl : (l : ℚ) = y * unit) :
      k < l ↔ x < y := by
    rw [← Nat.cast_lt (α := ℚ), hk, hl, mul_lt_mul_iff_of_pos_right positive]
  unfold holds
  dsimp only
  split
  next even =>
    rw [Bool.and_eq_true, decide_eq_true_eq, decide_eq_true_eq, le (scale _) point,
      le point (scale _)]
    exact ⟨fun ⟨lower, upper⟩ => ⟨lower, upper, by omega⟩, fun h => ⟨h.lower, h.upper⟩⟩
  next odd =>
    rw [Bool.and_eq_true, decide_eq_true_eq, decide_eq_true_eq, lt (scale _) point,
      lt point (scale _)]
    exact ⟨fun h => ⟨h.1.le, h.2.le, fun _ => h⟩, fun h => h.inner (by omega)⟩

theorem holds_of_onGrid? (h : b.onGrid? place = some n) : b.holds place n := by
  unfold onGrid? at h
  dsimp only at h
  split at h
  next below above =>
    cases h
    split
    · exact below
    · exact above
  next below _ => cases h; exact below
  next above => cases h; exact above
  next => cases h

/-- With steps of at most a quarter, the point just below the number is between the ends. -/
theorem inside_of_fine {low high mantissa num den : ℕ} (hlow : low + 1 ≤ 4 * mantissa)
    (hhigh : 4 * mantissa + 1 ≤ high) (pos : 0 < den) (fine : den ≤ num) :
    low * num < 4 * mantissa * num / den * den ∧ 4 * mantissa * num / den * den < high * num := by
  have below := Nat.div_mul_le_self (4 * mantissa * num) den
  have above : 4 * mantissa * num < 4 * mantissa * num / den * den + den := by
    rw [← Nat.succ_mul, Nat.mul_comm _ den]
    exact Nat.lt_mul_div_succ _ pos
  have lower := Nat.mul_le_mul_right num hlow
  have upper := Nat.mul_le_mul_right num hhigh
  rw [Nat.add_mul, Nat.one_mul] at lower upper
  constructor <;> omega

/-- On a grid with steps of at most a quarter of the last place, a point is in the interval. -/
theorem exists_onGrid? (hb : b.IsDouble) (fine : (10 : ℚ) ^ place ≤ 2 ^ (b.exponent - 2)) :
    ∃ n, b.onGrid? place = some n := by
  obtain ⟨unit, positive, num, den⟩ := b.exists_unit place
  have fine : (b.quarter place).2 ≤ (b.quarter place).1 := by
    have : ((b.quarter place).2 : ℚ) ≤ (b.quarter place).1 := by
      rw [num, den]
      gcongr
    exact_mod_cast this
  have pos : 0 < (b.quarter place).2 := by
    have : (0 : ℚ) < (b.quarter place).2 := by
      rw [den]
      positivity
    exact_mod_cast this
  have below : b.holds place (4 * b.mantissa * (b.quarter place).1 / (b.quarter place).2) := by
    have hlow : b.low + 1 ≤ 4 * b.mantissa := by
      have := hb.pos
      rw [Binary.low]
      split <;> omega
    obtain ⟨lower, upper⟩ := inside_of_fine hlow (Nat.le_succ _) pos fine
    unfold holds
    dsimp only
    split
    · simp only [Bool.and_eq_true, decide_eq_true_eq]
      exact ⟨lower.le, upper.le⟩
    · simp only [Bool.and_eq_true, decide_eq_true_eq]
      exact ⟨lower, upper⟩
  unfold onGrid?
  dsimp only
  rw [below]
  cases b.holds place _ <;> exact ⟨_, rfl⟩

/-! ## The search -/

theorem contains_search (hb : b.IsDouble) {tries : ℕ}
    (fine : (10 : ℚ) ^ (place - tries) ≤ 2 ^ (b.exponent - 2)) :
    b.Contains ((b.search tries place).digits * 10 ^ (b.search tries place).exponent) := by
  induction tries generalizing place with
  | zero =>
    obtain ⟨n, found⟩ := exists_onGrid? hb (by simpa using fine)
    rw [search, found]
    exact holds_iff.1 (holds_of_onGrid? found)
  | succ tries ih =>
    rw [search]
    split
    next n found => exact holds_iff.1 (holds_of_onGrid? found)
    next =>
      refine ih ?_
      rwa [Int.sub_sub, Int.add_comm, ← Nat.cast_succ]

/-! ## Powers of ten and of two -/

/-- Three decimal digits are at most ten bits. -/
theorem ten_zpow_le {p q : ℤ} (hp : 0 ≤ p) (le : 10 * p ≤ 3 * q) : (10 : ℚ) ^ p ≤ 2 ^ q := by
  refine (pow_le_pow_iff_left₀ (by positivity) (by positivity) three_ne_zero).1 ?_
  calc ((10 : ℚ) ^ p) ^ 3 = (10 ^ 3) ^ p := by rw [← zpow_natCast, ← zpow_natCast, zpow_comm]
    _ ≤ (2 ^ 10) ^ p := zpow_le_zpow_left₀ hp (by norm_num) (by norm_num)
    _ = 2 ^ (10 * p) := by rw [zpow_mul]; rfl
    _ ≤ 2 ^ (q * 3) := zpow_le_zpow_right₀ one_le_two (by omega)
    _ = (2 ^ q) ^ 3 := by rw [zpow_mul]; rfl

/-- Twenty-eight decimal digits are at least ninety-three bits. -/
theorem two_zpow_le {p q : ℤ} (hp : 0 ≤ p) (le : 28 * q ≤ 93 * p) : (2 : ℚ) ^ q ≤ 10 ^ p := by
  refine (pow_le_pow_iff_left₀ (by positivity) (by positivity) (by decide : 28 ≠ 0)).1 ?_
  calc ((2 : ℚ) ^ q) ^ 28 = 2 ^ (q * 28) := by rw [zpow_mul]; rfl
    _ ≤ 2 ^ (93 * p) := zpow_le_zpow_right₀ one_le_two (by omega)
    _ = (2 ^ 93) ^ p := by rw [zpow_mul]; rfl
    _ ≤ (10 ^ 28) ^ p := zpow_le_zpow_left₀ hp (by norm_num) (by norm_num)
    _ = (10 ^ p) ^ 28 := by rw [← zpow_natCast, ← zpow_natCast, zpow_comm]

/-- The last grid is fine enough. -/
theorem fine_last (hb : b.IsDouble) :
    (10 : ℚ) ^ ((b.exponent + Nat.log2 b.mantissa + 1) * 30103 / 100000 + 2 - (24 : ℕ)) ≤
      2 ^ (b.exponent - 2) := by
  have bits : Nat.log2 b.mantissa < 53 := (Nat.log2_lt hb.pos.ne').2 hb.small
  have least := hb.least
  have greatest := hb.greatest
  have place : (b.exponent + Nat.log2 b.mantissa + 1) * 30103 / 100000 + 2 - (24 : ℕ) ≤
      (b.exponent + 53) * 30103 / 100000 - 22 := by omega
  generalize (b.exponent + Nat.log2 b.mantissa + 1) * 30103 / 100000 + 2 - (24 : ℕ) = p at place
  obtain positive | negative := le_total 0 p
  · exact ten_zpow_le positive (by omega)
  · have inverse : (2 : ℚ) ^ (-(b.exponent - 2)) ≤ 10 ^ (-p) := two_zpow_le (by omega) (by omega)
    rw [zpow_neg, zpow_neg] at inverse
    exact (inv_le_inv₀ (two_zpow_pos _) (zpow_pos (by norm_num) p)).1 inverse

/-- The decimal that is found is in the interval. -/
theorem contains_shortest (hb : b.IsDouble) :
    b.Contains (b.shortest.digits * 10 ^ b.shortest.exponent) :=
  contains_search hb (fine_last hb)

end Binary

end JoinSheet
