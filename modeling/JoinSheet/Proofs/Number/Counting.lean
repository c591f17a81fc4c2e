import Mathlib

/-!
# Counting with numbers

A number has a mantissa of 53 bits. A natural number that fits into it is represented exactly, and
so is the next one, so that nothing is lost by counting in steps of one.

## Main definitions

* `Number.IsNormal` — mantissas with all of their bits, and exponents in range.
* `Number.whole` — the representation of a small natural number.

## Main statements

* `Number.ofNat_add_one` — one more than a natural number is the next one.
* `Number.ofNat_beq_zero` — only zero is equal to zero.
-/

namespace JoinSheet.Number

open Float.Model Float.Model.UnpackedFloat

/-! ## Exact results -/

theorem log2_shiftLeft {m : Nat} (hm : m ≠ 0) (k : Nat) : (m <<< k).log2 = m.log2 + k := by
  induction k with
  | zero => rfl
  | succ k ih =>
    have hk : m <<< k ≠ 0 := (Nat.shiftLeft_pos_iff.2 (Nat.pos_of_ne_zero hm)).ne'
    rw [Nat.shiftLeft_succ, Nat.log2_two_mul hk, ih, Nat.add_assoc]

/-- Zeros that are shifted out leave no trace. -/
theorem shiftRight_shiftLeft (m k : Nat) :
    ExtendedMantissa.mk (m <<< k) false false >>> k = ⟨m, false, false⟩ := by
  induction k generalizing m with
  | zero => rfl
  | succ k ih =>
    have step : ExtendedMantissa.mk (m <<< (k + 1)) false false >>> (k + 1) =
        (ExtendedMantissa.mk ((2 * m) <<< k) false false >>> k).shiftRightOne := by
      rw [Nat.shiftLeft_succ_inside]
      rfl
    rw [step, ih]
    simp [ExtendedMantissa.shiftRightOne]

/-- A mantissa with all of its bits, and an exponent that fits beside it. -/
structure IsNormal (m : Nat) (e : Int) : Prop where
  log2 : m.log2 = 52
  lower : -1074 ≤ e
  upper : e ≤ 971

namespace IsNormal

variable {m : Nat} {e : Int}

theorem pos (h : IsNormal m e) : 0 < m := by
  refine Nat.pos_of_ne_zero ?_
  rintro rfl
  exact absurd h.log2 (by decide)

theorem targetExponent (h : IsNormal m e) (k : Nat) :
    Format.binary64.targetExponent (totalExponent (m <<< k) (e - k)) = e := by
  have bits : Format.binary64.mantissaBits = 53 := rfl
  have least : Format.binary64.minExponent = -1074 := rfl
  have := h.lower
  rw [Format.targetExponent, totalExponent, log2_shiftLeft h.pos.ne', h.log2, bits, least]
  omega

theorem shiftToTargetExponent (h : IsNormal m e) (k : Nat) :
    UnpackedFloat.shiftToTargetExponent Format.binary64 (m <<< k) (e - k) .exact =
      (⟨m, false, false⟩, e) := by
  have amount : (e - (e - k)).toNat = k := by omega
  rw [UnpackedFloat.shiftToTargetExponent, h.targetExponent, shiftToExponent]
  simp only [amount, ExtendedMantissa.ofMantissaAndAccuracy, shiftRight_shiftLeft,
    Int.sub_add_cancel]

/-- What is exact is not rounded. -/
theorem roundWithAccuracy (h : IsNormal m e) (s : Sign) (k : Nat) :
    UnpackedFloat.roundWithAccuracy Format.binary64 s (m <<< k) (e - k) .exact =
      .finite s m e h.pos := by
  have again := h.shiftToTargetExponent 0
  rw [Nat.shiftLeft_zero, Int.natCast_zero, Int.sub_zero] at again
  unfold UnpackedFloat.roundWithAccuracy
  simp only [h.shiftToTargetExponent k, ExtendedMantissa.roundedMantissa, ExtendedMantissa.accuracy,
    Accuracy.roundToNearestEven, again]
  rw [dif_neg h.pos.ne']

/-! ### Representations -/

/-- The bits that represent an exponent. -/
def exponentBits (e : Int) : BitVec 11 := BitVec.ofNat 11 (e + 1075).toNat

theorem toNat_exponentBits (h : IsNormal m e) : (exponentBits e).toNat = (e + 1075).toNat := by
  have lower := h.lower
  have upper := h.upper
  rw [exponentBits, BitVec.toNat_ofNat]
  omega

/-- The exponent is neither that of the smallest numbers nor that of the infinities. -/
theorem exponentBits_ne (h : IsNormal m e) : exponentBits e ≠ 0#11 ∧ exponentBits e ≠ -1#11 := by
  have lower := h.lower
  have upper := h.upper
  have bits := h.toNat_exponentBits
  constructor
  · intro same
    rw [same, BitVec.toNat_ofNat] at bits
    omega
  · intro same
    have all : (-1#11).toNat = 2047 := rfl
    rw [same, all] at bits
    omega

/-- The first bit of the mantissa is not represented. -/
theorem toNat_mantissa (h : IsNormal m e) : (1#1 ++ BitVec.ofNat 52 m).toNat = m := by
  obtain ⟨lower, upper⟩ := (Nat.log2_eq_iff h.pos.ne').1 h.log2
  rw [BitVec.toNat_append, ← Nat.shiftLeft_add_eq_or_of_lt (BitVec.isLt _), BitVec.toNat_ofNat,
    Nat.shiftLeft_eq, BitVec.toNat_ofNat]
  omega

theorem pack_eq (h : IsNormal m e) (s : Sign) :
    UnpackedFloat.pack Format.binary64 (.finite s m e h.pos) =
      packComponents Format.binary64 s (exponentBits e) (BitVec.ofNat 52 m) := by
  have biased : e + Format.binary64.exponentBias + (52 : Nat) = e + 1075 := by
    have bias : (Format.binary64.exponentBias : Int) = 1023 := rfl
    omega
  have bits : 52 + 1 = Format.binary64.mantissaBits := rfl
  have upper := h.upper
  rw [UnpackedFloat.pack]
  simp only [biased, h.log2]
  rw [if_neg (by omega), if_pos bits, exponentBits]

/-- A number with all of its bits is what its representation says. -/
theorem unpack_pack (h : IsNormal m e) (s : Sign) :
    UnpackedFloat.unpack Format.binary64
      (UnpackedFloat.pack Format.binary64 (.finite s m e h.pos)) = .finite s m e h.pos := by
  obtain ⟨notSmall, notLarge⟩ := h.exponentBits_ne
  have bias : (Format.binary64.exponentBias : Int) = 1023 := rfl
  have lower := h.lower
  rw [h.pack_eq, UnpackedFloat.unpack]
  simp only [unpackMantissa_packComponents, unpackExponent_packComponents,
    unpackSign_packComponents, Sign.ofBitVec_toBitVec, if_neg notLarge, if_neg notSmall,
    h.toNat_mantissa, h.toNat_exponentBits, bias]
  congr 1
  omega

end IsNormal

/-! ## Natural numbers -/

/-- The representation of a natural number of at most 53 bits. -/
def whole (n : Nat) : UnpackedFloat :=
  if h : n = 0 then .zero .positive
  else .finite .positive (n <<< (52 - n.log2)) (n.log2 - 52)
    (Nat.shiftLeft_pos_iff.2 (Nat.pos_of_ne_zero h))

section Whole

variable {n : Nat} (hn : n ≠ 0) (small : n < 2 ^ 53)

include hn small

theorem isNormal_whole : IsNormal (n <<< (52 - n.log2)) (n.log2 - 52) := by
  have bits : n.log2 < 53 := (Nat.log2_lt hn).2 small
  exact ⟨by rw [log2_shiftLeft hn]; omega, by omega, by omega⟩

theorem roundWithAccuracy_whole (k : Nat) :
    roundWithAccuracy Format.binary64 .positive (n <<< (52 - n.log2 + k)) (n.log2 - 52 - k) .exact =
      whole n := by
  rw [Nat.shiftLeft_add, (isNormal_whole hn small).roundWithAccuracy, whole, dif_neg hn]

/-- It does not matter with how many zeros behind it the number is given. -/
theorem normalize_whole (k : Nat) (s : Sign) :
    normalize Format.binary64 (n <<< k : Nat) (-k) s = whole n := by
  have bits : n.log2 < 53 := (Nat.log2_lt hn).2 small
  have positive : compare ((n <<< k : Nat) : Int) 0 = .gt := by
    have pos : 0 < n <<< k := Nat.shiftLeft_pos_iff.2 (Nat.pos_of_ne_zero hn)
    exact Int.compare_eq_gt.2 (Int.natCast_pos.2 pos)
  have target : Format.binary64.targetExponent (totalExponent (n <<< k) (-k)) = n.log2 - 52 := by
    have width : Format.binary64.mantissaBits = 53 := rfl
    have least : Format.binary64.minExponent = -1074 := rfl
    rw [Format.targetExponent, totalExponent, log2_shiftLeft hn, width, least]
    omega
  have amount : k + (-(k : Int) - (n.log2 - 52)).toNat = 52 - n.log2 + (k - (52 - n.log2)) := by
    omega
  have exponent : -(k : Int) - (-(k : Int) - (n.log2 - 52)).toNat =
      n.log2 - 52 - (k - (52 - n.log2) : Nat) := by
    omega
  simp only [UnpackedFloat.normalize, positive, Int.toNat_natCast, UnpackedFloat.round, target,
    decreaseExponent]
  rw [← Nat.shiftLeft_add, amount, exponent, roundWithAccuracy_whole hn small]

end Whole

theorem whole_one : whole 1 = .finite .positive (2 ^ 52) (-52) (by decide) := rfl

theorem ofNat_whole {n : Nat} (small : n < 2 ^ 53) :
    UnpackedFloat.ofNat Format.binary64 n = whole n := by
  by_cases hn : n = 0
  · subst hn
    rfl
  · exact normalize_whole hn small 0 .positive

theorem mul_whole_one {n : Nat} (small : n < 2 ^ 53) :
    UnpackedFloat.mul Format.binary64 (whole n) (whole 1) = whole n := by
  by_cases hn : n = 0
  · subst hn
    rfl
  · have rounded := roundWithAccuracy_whole hn small 52
    rw [Nat.shiftLeft_add, Nat.shiftLeft_eq _ 52] at rounded
    conv_lhs => rw [whole_one, whole, dif_neg hn]
    exact rounded

theorem add_whole_one {n : Nat} (small : n + 1 < 2 ^ 53) :
    UnpackedFloat.add Format.binary64 (whole n) (whole 1) = whole (n + 1) := by
  by_cases hn : n = 0
  · subst hn
    rfl
  · have bits : n.log2 < 53 := (Nat.log2_lt hn).2 (by omega)
    have least : min ((n.log2 : Int) - 52) (-52) = -52 := by omega
    have amount : ((n.log2 : Int) - 52 - -52).toNat = n.log2 := by omega
    have aligned : n <<< (52 - n.log2) <<< n.log2 = n * 2 ^ 52 := by
      rw [← Nat.shiftLeft_add, Nat.shiftLeft_eq, Nat.sub_add_cancel (by omega)]
    have sum := normalize_whole (Nat.succ_ne_zero n) small 52 .positive
    rw [Nat.shiftLeft_eq, Nat.succ_mul] at sum
    conv_lhs => rw [whole_one, whole, dif_neg hn]
    simp only [UnpackedFloat.add, least, decreaseExponent, amount, aligned]
    exact sum

theorem unpack_pack_whole {n : Nat} (small : n < 2 ^ 53) :
    (Float.Model.pack (whole n)).unpack = whole n := by
  by_cases hn : n = 0
  · subst hn
    rfl
  · simp only [whole, dif_neg hn]
    exact (isNormal_whole hn small).unpack_pack .positive

/-! ## Numbers -/

theorem toFloat_toUInt64 {n : Nat} (small : n < 2 ^ 53) :
    n.toUInt64.toFloat = .ofModel (.pack (whole n)) := by
  have word : n.toUInt64.toNat = n := by
    rw [Nat.toUInt64, UInt64.toNat_ofNat']
    omega
  calc n.toUInt64.toFloat
    _ = .ofModel (.pack (UnpackedFloat.ofNat Format.binary64 n.toUInt64.toNat)) := rfl
    _ = .ofModel (.pack (whole n)) := by rw [word, ofNat_whole small]

theorem ofModel_mul (a b : Float.Model) : Float.ofModel a * Float.ofModel b =
    .ofModel (.pack (UnpackedFloat.mul Format.binary64 a.unpack b.unpack)) := rfl

/-- A natural number of at most 53 bits as a number. -/
theorem ofNat_eq {n : Nat} (small : n < 2 ^ 53) : Float.ofNat n = .ofModel (.pack (whole n)) := by
  have one : Float.exactlyRepresentablePowersOfTen[0] = .ofModel (.pack (whole 1)) := by
    decide +kernel
  have fast : Float.ofNat n = n.toUInt64.toFloat * Float.exactlyRepresentablePowersOfTen[0] :=
    dif_pos ⟨small, by decide⟩
  rw [fast, toFloat_toUInt64 small, one, ofModel_mul, unpack_pack_whole small,
    unpack_pack_whole (by decide), mul_whole_one small]

/-- One more than a natural number of less than 53 bits. -/
theorem ofNat_add_one {n : Nat} (small : n + 1 < 2 ^ 53) :
    Float.ofNat n + 1.0 = Float.ofNat (n + 1) := by
  have one : (1.0 : Float) = Float.ofNat 1 := by decide +kernel
  have sum (a b : Float.Model) : Float.ofModel a + Float.ofModel b =
      .ofModel (.pack (UnpackedFloat.add Format.binary64 a.unpack b.unpack)) := rfl
  rw [one, ofNat_eq (by omega), ofNat_eq (by omega), ofNat_eq small, sum,
    unpack_pack_whole (by omega), unpack_pack_whole (by omega), add_whole_one small]

theorem ofNat_beq_zero {n : Nat} (small : n < 2 ^ 53) : (Float.ofNat n == 0.0) = (n == 0) := by
  have zero : (0.0 : Float) = .ofModel (.pack (whole 0)) := by decide +kernel
  have equal (a b : Float.Model) : (Float.ofModel a == Float.ofModel b) =
      UnpackedFloat.beq a.unpack b.unpack := rfl
  rw [ofNat_eq small, zero, equal, unpack_pack_whole small, unpack_pack_whole (by decide)]
  by_cases hn : n = 0
  · subst hn
    rfl
  · rw [beq_eq_false_iff_ne.2 hn, whole, dif_neg hn]
    rfl

end JoinSheet.Number
