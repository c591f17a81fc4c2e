import JoinSheet.Number.Writing
import JoinSheet.Proofs.Number.Decimal
import JoinSheet.Proofs.Number.Reading
import JoinSheet.Proofs.Number.Shortest

/-!
# Numbers are read back

A finite number is written as the shortest decimal in its interval, and every decimal there is read
as the number. What is written of the others is no numeral.

## Main statements

* `Decimal.exists_magnitude?` — what positional notation is read as.
* `Number.read?_write` — a finite number is read back.
* `Number.read?_write_of_not_isFinite` — infinities and what is no number are not.
-/

namespace JoinSheet

/-! ## Positional notation -/

namespace Numeral

open Text

variable {t whole fraction : Text}

theorem fixedPoint?_of_isDigits (h : t.IsDigits) :
    fixedPoint? t = some (Nat.ofDigitChars 10 t 0, 0) := by
  rw [fixedPoint?, cut?_eq_none.2 (h.not_mem rfl)]
  simp only [h.toNat?_eq, Option.map_some]

theorem fixedPoint?_point (h : (whole ++ fraction).IsDigits) :
    fixedPoint? (whole ++ '.' :: fraction) =
      some (Nat.ofDigitChars 10 (whole ++ fraction) 0, fraction.length) := by
  have absent : '.' ∉ whole := fun mem => h.not_mem rfl (List.mem_append_left _ mem)
  rw [fixedPoint?, cut?_append absent]
  simp only [h.toNat?_eq, Option.map_some]

end Numeral

namespace Decimal

open Text Numeral

variable {d : Decimal} {c : Char}

/-- A decimal is written with zeros behind its digits, or with a point among them. -/
theorem toText_cases (d : Decimal) :
    (∃ zeros : ℕ, d.exponent = zeros ∧ d.toText.IsDigits ∧
      Nat.ofDigitChars 10 d.toText 0 = d.digits * 10 ^ zeros) ∨
    ∃ whole fraction : Text, d.toText = whole ++ '.' :: fraction ∧
      (whole ++ fraction).IsDigits ∧ Nat.ofDigitChars 10 (whole ++ fraction) 0 = d.digits ∧
      d.exponent = -fraction.length := by
  have digits := isDigits_ofNat d.digits
  have number : Nat.ofDigitChars 10 (Text.ofNat d.digits) 0 = d.digits :=
    Nat.ofDigitChars_ten_toDigits
  unfold toText
  dsimp only
  split
  next zeros exponent =>
    refine .inl ⟨zeros, exponent, digits.append_zeros zeros, ?_⟩
    rw [Nat.ofDigitChars_append, number, Nat.ofDigitChars_replicate_zero, Nat.mul_comm]
  next n exponent =>
    split
    next few =>
      refine .inr ⟨['0'], List.replicate (n + 1 - (Text.ofNat d.digits).length) '0' ++
        Text.ofNat d.digits, rfl, (digits.zeros_append _).zeros_append 1, ?_, ?_⟩
      · rw [Nat.ofDigitChars_append, Nat.ofDigitChars_append, Nat.ofDigitChars_replicate_zero]
        exact number
      · rw [exponent, List.length_append, List.length_replicate]
        omega
    next many =>
      refine .inr ⟨_, _, rfl, by rwa [List.take_append_drop], by rwa [List.take_append_drop], ?_⟩
      rw [exponent, List.length_drop]
      omega

theorem mem_toText (h : c ∈ d.toText) : c.isDigit ∨ c = '.' := by
  obtain ⟨_, -, digits, -⟩ | ⟨whole, fraction, written, digits, -⟩ := d.toText_cases
  · exact .inl (digits.all c h)
  · rw [written, List.mem_append, List.mem_cons] at h
    obtain mem | rfl | mem := h
    · exact .inl (digits.all c (List.mem_append_left _ mem))
    · exact .inr rfl
    · exact .inl (digits.all c (List.mem_append_right _ mem))

/-- A decimal in positional notation is read as one of the same value. -/
theorem exists_magnitude? (d : Decimal) : ∃ n e, magnitude? d.toText = some (n, e) ∧
    (n * 10 ^ e : ℚ) = d.digits * 10 ^ d.exponent := by
  have plain : ∀ c ∈ d.toText, ¬IsExponentLetter c := by
    rintro c mem (rfl | rfl)
    · exact absurd (mem_toText mem) (by decide)
    · exact absurd (mem_toText mem) (by decide)
  rw [magnitude?_of_forall plain]
  obtain ⟨zeros, exponent, digits, number⟩ | ⟨whole, fraction, written, digits, number, exponent⟩ :=
    d.toText_cases
  · refine ⟨_, _, by rw [fixedPoint?_of_isDigits digits]; rfl, ?_⟩
    rw [number, exponent]
    simp
  · refine ⟨_, _, by rw [written, fixedPoint?_point digits]; rfl, ?_⟩
    rw [number, exponent]
    rfl

theorem ofText?_toText (d : Decimal) :
    ofText? d.toText = (magnitude? d.toText).map fun (n, e) => ⟨false, n, e⟩ := by
  refine ofText?_of_head? fun c first sign => ?_
  obtain rfl | rfl := sign
  · exact absurd (mem_toText (List.mem_of_mem_head? first)) (by decide)
  · exact absurd (mem_toText (List.mem_of_mem_head? first)) (by decide)

end Decimal

/-! ## Bits -/

namespace Binary

variable {bits : ℕ}

theorem ofBits_small (h : bits / 2 ^ 52 % 2 ^ 11 = 0) :
    ofBits bits = ⟨bits % 2 ^ 52, -1074, false⟩ := if_pos h

theorem ofBits_large (h : bits / 2 ^ 52 % 2 ^ 11 ≠ 0) :
    ofBits bits = ⟨2 ^ 52 + bits % 2 ^ 52, (bits / 2 ^ 52 % 2 ^ 11 : ℕ) - 1075,
      bits % 2 ^ 52 = 0 ∧ 1 < bits / 2 ^ 52 % 2 ^ 11⟩ := if_neg h

theorem isDouble_ofBits (pos : 0 < bits) (finite : bits < 0x7ff0000000000000) :
    (ofBits bits).IsDouble := by
  by_cases small : bits / 2 ^ 52 % 2 ^ 11 = 0
  · rw [ofBits_small small]
    exact ⟨by dsimp only; omega, by dsimp only; omega, le_rfl, by dsimp only; omega, .inl rfl,
      by simp⟩
  · rw [ofBits_large small]
    refine ⟨by dsimp only; omega, by dsimp only; omega, by dsimp only; omega, by dsimp only; omega,
      .inr (by dsimp only; omega), ?_⟩
    rw [decide_eq_true_eq]
    dsimp only
    omega

end Binary

namespace Number

open Float.Model Float.Model.UnpackedFloat

section Bits

variable (b : BitVec 64)

theorem toNat_unpackMantissa :
    (@unpackMantissa .binary64 b).toNat = b.toNat % 2 ^ 52 := by
  rw [unpackMantissa_def, BitVec.extractLsb'_toNat, Nat.shiftRight_zero]

theorem toNat_unpackExponent :
    (@unpackExponent .binary64 b).toNat = b.toNat / 2 ^ 52 % 2 ^ 11 := by
  rw [unpackExponent_def, BitVec.extractLsb'_toNat, Nat.shiftRight_eq_div_pow]

theorem toNat_unpackSign :
    (@unpackSign .binary64 b).toNat = b.toNat / 2 ^ 63 := by
  have bound := b.isLt
  have place : Format.binary64.mantissaBitsWithoutImplicit + Format.binary64.exponentBits = 63 :=
    rfl
  rw [unpackSign_def, place, BitVec.extractLsb'_toNat, Nat.shiftRight_eq_div_pow]
  omega

theorem unpackMantissa_eq_zero : @unpackMantissa .binary64 b = 0#52 ↔ b.toNat % 2 ^ 52 = 0 := by
  rw [← BitVec.toNat_inj, toNat_unpackMantissa]
  rfl

theorem unpackExponent_eq_zero :
    @unpackExponent .binary64 b = 0#11 ↔ b.toNat / 2 ^ 52 % 2 ^ 11 = 0 := by
  rw [← BitVec.toNat_inj, toNat_unpackExponent]
  rfl

theorem unpackExponent_eq_ones :
    @unpackExponent .binary64 b = -1#11 ↔ b.toNat / 2 ^ 52 % 2 ^ 11 = 2047 := by
  rw [← BitVec.toNat_inj, toNat_unpackExponent]
  rfl

theorem unpackSign_eq_zero : @unpackSign .binary64 b = 0#1 ↔ b.toNat / 2 ^ 63 = 0 := by
  rw [← BitVec.toNat_inj, toNat_unpackSign]
  rfl

end Bits

/-- A finite number other than zero, from its bits. -/
theorem unpack_of_bits {b : BitVec 64} (pos : 0 < b.toNat % 2 ^ 63)
    (finite : b.toNat % 2 ^ 63 < 0x7ff0000000000000) :
    UnpackedFloat.unpack Format.binary64 b =
      .finite (.ofBitVec (@unpackSign .binary64 b))
        (Binary.ofBits (b.toNat % 2 ^ 63)).mantissa (Binary.ofBits (b.toNat % 2 ^ 63)).exponent
        (Binary.isDouble_ofBits pos finite).pos := by
  have mantissa := toNat_unpackMantissa b
  have exponent := toNat_unpackExponent b
  have bias : (Format.binary64.exponentBias : Int) = 1023 := rfl
  have notOnes : @unpackExponent .binary64 b ≠ -1#11 := by
    rw [Ne, unpackExponent_eq_ones]
    omega
  rw [UnpackedFloat.unpack]
  simp only [if_neg notOnes, bias]
  by_cases small : b.toNat % 2 ^ 63 / 2 ^ 52 % 2 ^ 11 = 0
  · have none : @unpackExponent .binary64 b = 0#11 := (unpackExponent_eq_zero b).2 (by omega)
    have some : @unpackMantissa .binary64 b ≠ 0#52 := by
      rw [Ne, unpackMantissa_eq_zero]
      omega
    have shown := Binary.ofBits_small small
    rw [if_pos none, dif_neg some]
    congr 1
    · rw [shown, mantissa]
      dsimp only
      omega
    · rw [shown, exponent]
      dsimp only
      omega
  · have some : @unpackExponent .binary64 b ≠ 0#11 := by
      rw [Ne, unpackExponent_eq_zero]
      omega
    have shown := Binary.ofBits_large small
    rw [if_neg some]
    congr 1
    · have first : (1#1).toNat = 1 := rfl
      rw [shown, BitVec.toNat_append, ← Nat.shiftLeft_add_eq_or_of_lt (BitVec.isLt _), mantissa,
        Nat.shiftLeft_eq, first]
      dsimp only
      omega
    · rw [shown, exponent]
      dsimp only
      omega

/-- A double with fewer bits is what its representation says. -/
theorem unpack_pack_small {m : ℕ} (pos : 0 < m) (small : m < 2 ^ 52) (s : Sign) :
    UnpackedFloat.unpack Format.binary64
      (UnpackedFloat.pack Format.binary64 (.finite s m (-1074) pos)) = .finite s m (-1074) pos := by
  have bias : (Format.binary64.exponentBias : Int) = 1023 := rfl
  have bits : m.log2 + 1 ≠ Format.binary64.mantissaBits := by
    have := (Nat.log2_lt pos.ne').2 small
    have width : Format.binary64.mantissaBits = 53 := rfl
    omega
  have mantissa : (BitVec.ofNat 52 m).toNat = m := by
    rw [BitVec.toNat_ofNat, Nat.mod_eq_of_lt small]
  have some : BitVec.ofNat 52 m ≠ 0#52 := by
    intro same
    rw [same, BitVec.toNat_zero] at mantissa
    omega
  have packed : UnpackedFloat.pack Format.binary64 (.finite s m (-1074) pos) =
      packComponents Format.binary64 s (0#11) (BitVec.ofNat 52 m) := by
    rw [UnpackedFloat.pack]
    simp only [bias]
    rw [if_neg (by decide), if_neg bits]
  rw [packed, UnpackedFloat.unpack]
  simp only [unpackMantissa_packComponents, unpackExponent_packComponents,
    unpackSign_packComponents, Sign.ofBitVec_toBitVec, bias]
  rw [if_neg (by decide), if_pos trivial, dif_neg some]
  congr 1

theorem unpack_pack_double {b : Binary} (hb : b.IsDouble) (s : Sign) :
    (Float.Model.pack (.finite s b.mantissa b.exponent hb.pos)).unpack =
      .finite s b.mantissa b.exponent hb.pos := by
  by_cases full : 2 ^ 52 ≤ b.mantissa
  · have bits : b.mantissa.log2 = 52 := (Nat.log2_eq_iff hb.pos.ne').2 ⟨full, hb.small⟩
    exact IsNormal.model_unpack_pack ⟨bits, hb.least, hb.greatest⟩ s
  · obtain ⟨mantissa, exponent, step⟩ := b
    obtain rfl : exponent = -1074 := hb.full.resolve_right full
    exact unpack_pack_small hb.pos (not_le.1 full) s

theorem unpack_of_zero {b : BitVec 64} (zero : b.toNat % 2 ^ 63 = 0) :
    ∃ s, UnpackedFloat.unpack Format.binary64 b = .zero s := by
  have noExponent : @unpackExponent .binary64 b = 0#11 := (unpackExponent_eq_zero b).2 (by omega)
  have noMantissa : @unpackMantissa .binary64 b = 0#52 := (unpackMantissa_eq_zero b).2 (by omega)
  rw [UnpackedFloat.unpack]
  simp only [noExponent, noMantissa]
  exact ⟨_, rfl⟩

theorem unpack_of_large {b : BitVec 64} (large : 0x7ff0000000000000 ≤ b.toNat % 2 ^ 63) :
    UnpackedFloat.unpack Format.binary64 b = if b.toNat % 2 ^ 63 = 0x7ff0000000000000 then
      .infinity (.ofBitVec (@unpackSign .binary64 b)) else .notANumber := by
  have ones : @unpackExponent .binary64 b = -1#11 := (unpackExponent_eq_ones b).2 (by omega)
  rw [UnpackedFloat.unpack]
  simp only [ones, if_true]
  by_cases infinite : b.toNat % 2 ^ 63 = 0x7ff0000000000000
  · have none : @unpackMantissa .binary64 b = 0#52 := (unpackMantissa_eq_zero b).2 (by omega)
    rw [if_pos none, if_pos infinite]
  · have some : @unpackMantissa .binary64 b ≠ 0#52 := by
      rw [Ne, unpackMantissa_eq_zero]
      omega
    rw [if_neg some, if_neg infinite]

/-! ## Reading what is written -/

variable {x : Float}

/-- The sign of a number. -/
def sign (x : Float) : Sign := .ofBitVec (@unpackSign .binary64 x.toBits.toBitVec)

/-- What stands in front of a number. -/
def signText : Sign → Text
  | .positive => []
  | .negative => ['-']

theorem signText_sign (x : Float) :
    (if x.toBits.toNat / Nat.pow 2 63 = 0 then [] else ['-'] : Text) = signText (sign x) := by
  have first := unpackSign_eq_zero x.toBits.toBitVec
  by_cases positive : x.toBits.toNat / Nat.pow 2 63 = 0
  · rw [if_pos positive, sign, first.2 positive]
    rfl
  · have other : @unpackSign .binary64 x.toBits.toBitVec ≠ 0#1 := mt first.1 positive
    rw [if_neg positive, sign, Sign.ofBitVec, if_neg other]
    rfl

/-- A number is what is read from its representation. -/
theorem eq_of_unpack {u : UnpackedFloat} (h : x.toModel.unpack = u) :
    x = .ofModel (.pack u) := by
  obtain ⟨⟨⟨bits⟩, valid⟩⟩ := x
  have packed : UnpackedFloat.pack Format.binary64 u = bits :=
    h ▸ pack_unpack_of_valid valid
  subst packed
  rfl

theorem beq_zero_eq (x : Float) : (x == 0.0) = x.toModel.unpack.beq (.zero .positive) := by
  have zero : (0.0 : Float) = .ofModel (.pack (whole 0)) := by decide +kernel
  rw [zero]
  exact congrArg x.toModel.unpack.beq (unpack_pack_whole (by decide))

theorem beq_zero_eq_false {u : UnpackedFloat} (h : x.toModel.unpack = u)
    (other : ∀ s, u ≠ .zero s) : (x == 0.0) = false := by
  rw [beq_zero_eq, h]
  match u with
  | .zero s => exact absurd rfl (other s)
  | .notANumber | .infinity .positive | .infinity .negative => rfl
  | .finite .positive .. | .finite .negative .. => rfl

/-- What is written of a number is that it is zero, its sign and its shortest decimal, or that it is
not finite. -/
theorem write_cases (x : Float) :
    (x.isFinite ∧ x == 0.0 ∧ write x = "0".toList) ∨
    (x.isFinite ∧ ∃ (b : Binary) (hb : b.IsDouble) (s : Sign),
      x = .ofModel (.pack (.finite s b.mantissa b.exponent hb.pos)) ∧
        write x = signText s ++ b.shortest.toText) ∨
    x.isFinite = false ∧ write x ∈ ["NaN".toList, "inf".toList, "-inf".toList] := by
  have isFinite : x.isFinite = x.toModel.unpack.isFinite := rfl
  have isNaN : x.isNaN = x.toModel.unpack.isNaN := rfl
  have bits : x.toModel.unpack = UnpackedFloat.unpack Format.binary64 x.toBits.toBitVec := rfl
  have word : x.toBits.toBitVec.toNat % 2 ^ 63 = x.toBits.toNat % Nat.pow 2 63 := rfl
  have written (notZero : (x == 0.0) = false) : write x = signed x := by
    rw [write, notZero]
    rfl
  unfold signed at written
  simp only [signText_sign] at written
  rw [← word] at written
  rw [isFinite]
  obtain none | some := Nat.eq_zero_or_pos (x.toBits.toBitVec.toNat % 2 ^ 63)
  · obtain ⟨s, unpacked⟩ := unpack_of_zero none
    have isZero : x == 0.0 := by
      rw [beq_zero_eq, bits, unpacked]
      cases s <;> rfl
    exact .inl ⟨by rw [bits, unpacked]; rfl, isZero, if_pos isZero⟩
  · by_cases small : x.toBits.toBitVec.toNat % 2 ^ 63 < 0x7ff0000000000000
    · have unpacked := bits.trans (unpack_of_bits some small)
      refine .inr (.inl ⟨by rw [unpacked]; rfl, _, Binary.isDouble_ofBits some small, sign x,
        eq_of_unpack unpacked, ?_⟩)
      rw [written (beq_zero_eq_false unpacked nofun), isNaN, unpacked, if_neg (by exact nofun),
        if_neg small.ne, if_neg some.ne']
    · have unpacked := bits.trans (unpack_of_large (not_lt.1 small))
      refine .inr (.inr ?_)
      by_cases infinite : x.toBits.toBitVec.toNat % 2 ^ 63 = 0x7ff0000000000000
      · rw [if_pos infinite] at unpacked
        rw [unpacked, written (beq_zero_eq_false unpacked nofun), isNaN, unpacked,
          if_neg (by exact nofun), if_pos infinite]
        refine ⟨rfl, ?_⟩
        cases sign x
        · exact .tail _ (.tail _ (.head _))
        · exact .tail _ (.head _)
      · rw [if_neg infinite] at unpacked
        rw [unpacked, written (beq_zero_eq_false unpacked nofun), isNaN, unpacked,
          if_pos (by rfl)]
        exact ⟨rfl, .head _⟩

theorem ofModel_neg (a : Float.Model) : -Float.ofModel a = .ofModel (.pack a.unpack.neg) := rfl

/-- The shortest decimal of a double is read as the double. -/
theorem read?_shortest {b : Binary} (hb : b.IsDouble) (s : Sign) :
    read? (signText s ++ b.shortest.toText) =
      some (.ofModel (.pack (.finite s b.mantissa b.exponent hb.pos))) := by
  obtain ⟨n, e, read, value⟩ := b.shortest.exists_magnitude?
  have magnitude : Numeral.toFloatMagnitude n e = hb.toFloat :=
    Binary.Contains.toFloatMagnitude_eq hb (value ▸ Binary.contains_shortest hb)
  cases s with
  | positive =>
    rw [signText, List.nil_append, read?, Decimal.ofText?_toText, read]
    exact congrArg some magnitude
  | negative =>
    have signed : Numeral.ofText? ('-' :: b.shortest.toText) = some ⟨true, n, e⟩ := by
      rw [Numeral.ofText?, read]
      rfl
    rw [signText, List.singleton_append, read?, signed, Option.map_some]
    simp only [Numeral.toFloat, magnitude, if_true]
    rw [Binary.IsDouble.toFloat, ofModel_neg, unpack_pack_double hb]
    rfl

/-- A finite number is read back, except for the sign of a zero. -/
theorem read?_write (h : x.isFinite) :
    ∃ y, read? (write x) = some y ∧ (y = x ∨ y == 0.0 ∧ x == 0.0) := by
  obtain ⟨-, isZero, written⟩ | ⟨-, b, hb, s, rfl, written⟩ | ⟨infinite, -⟩ := write_cases x
  · refine ⟨0.0, ?_, .inr ⟨by decide +kernel, isZero⟩⟩
    rw [written]
    rfl
  · exact ⟨_, by rw [written, read?_shortest hb], .inl rfl⟩
  · rw [h] at infinite
    cases infinite

theorem write_of_not_isFinite (h : x.isFinite = false) :
    write x ∈ ["NaN".toList, "inf".toList, "-inf".toList] := by
  obtain ⟨finite, -⟩ | ⟨finite, -⟩ | ⟨-, written⟩ := write_cases x
  · rw [finite] at h
    cases h
  · rw [finite] at h
    cases h
  · exact written

/-- What is written of other numbers is no numeral. -/
theorem read?_write_of_not_isFinite (h : x.isFinite = false) : read? (write x) = none := by
  have others : ∀ t ∈ ["NaN".toList, "inf".toList, "-inf".toList], read? t = none := by decide
  exact others _ (write_of_not_isFinite h)

end Number

end JoinSheet
