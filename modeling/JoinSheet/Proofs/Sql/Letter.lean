import JoinSheet.Proofs.Sql.Wildcard

/-!
# Patterns of letters

The letters A to Z take one byte each in the UTF-8 form of a text, and no byte of another character
is one of them. So a pattern that consists of letters matches the texts that are equal to it up to
letter case.

## Main statements

* `Like.isMatch_of_letters` — what a pattern of letters matches.
-/

namespace JoinSheet

/-! ## Letters -/

theorem isAlpha_iff {c : Char} : c.isAlpha ↔
    65 ≤ c.toNat ∧ c.toNat ≤ 90 ∨ 97 ≤ c.toNat ∧ c.toNat ≤ 122 := by
  have lower : c.isLower = (decide ('a'.val ≤ c.val) && decide (c.val ≤ 'z'.val)) := rfl
  have either : c.isAlpha = (c.isUpper || c.isLower) := rfl
  rw [either, Bool.or_eq_true, Text.isUpper_iff, lower]
  simp [UInt32.le_iff_toNat_le]

/-! ## Their bytes -/

namespace Like

open Text

theorem lowerByte_ofNat {n : Nat} (small : n < 256) :
    (lowerByte (UInt8.ofNat n)).toNat = if 65 ≤ n ∧ n ≤ 90 then n + 32 else n := by
  unfold lowerByte
  have upper : 0x41 ≤ UInt8.ofNat n ∧ UInt8.ofNat n ≤ 0x5a ↔ 65 ≤ n ∧ n ≤ 90 := by
    simp [UInt8.le_iff_toNat_le, Nat.mod_eq_of_lt small]
  simp only [upper]
  split
  · simp
    omega
  · simp
    omega

/-- Other characters start with a byte that is no letter. -/
theorem exists_utf8EncodeChar {x : Char} (wide : 128 ≤ x.toNat) :
    ∃ n rest, String.utf8EncodeChar x = UInt8.ofNat n :: rest ∧ 128 ≤ n ∧ n < 256 := by
  have wide : ¬x.val.toNat ≤ 0x7f := Nat.not_le.2 wide
  unfold String.utf8EncodeChar
  simp only [if_neg wide]
  split
  · exact ⟨_, _, rfl, by omega, by omega⟩
  · split
    · exact ⟨_, _, rfl, by omega, by omega⟩
    · exact ⟨_, _, rfl, by omega, by omega⟩

theorem utf8EncodeChar_of_lt {x : Char} (narrow : x.toNat < 128) :
    String.utf8EncodeChar x = [UInt8.ofNat x.toNat] := if_pos (Nat.le_of_lt_succ narrow)

section Letter

variable {c : Char} (letter : c.isAlpha)

include letter

/-- The byte of a letter is no wildcard. -/
theorem byte_ne : UInt8.ofNat c.toNat ≠ anyRun ∧ UInt8.ofNat c.toNat ≠ anyByte := by
  have bounds := isAlpha_iff.1 letter
  have byte : (UInt8.ofNat c.toNat).toNat = c.toNat := by
    rw [UInt8.toNat_ofNat']
    omega
  constructor
  all_goals
    intro same
    have := congrArg UInt8.toNat same
    simp only [byte, anyRun, anyByte, UInt8.reduceToNat] at this
    omega

theorem fits_iff {n : Nat} (small : n < 256) : fits (UInt8.ofNat c.toNat) (UInt8.ofNat n) ↔
    c.toLower.toNat = if 65 ≤ n ∧ n ≤ 90 then n + 32 else n := by
  have bounds := isAlpha_iff.1 letter
  rw [fits, beq_eq_false_iff_ne.2 (byte_ne letter).2, Bool.false_or, beq_iff_eq, ← UInt8.toNat_inj,
    lowerByte_ofNat (by omega), lowerByte_ofNat small, toNat_toLower]

/-- A letter of a pattern takes the same letter of a text, and no byte of another character. -/
theorem matches_cons_letter (pattern : List UInt8) (x : Char) (t : Text) :
    Matches (UInt8.ofNat c.toNat :: pattern) (utf8 (x :: t)) ↔
      x.toLower = c.toLower ∧ Matches pattern t.utf8 := by
  have bounds := isAlpha_iff.1 letter
  have whole : utf8 (x :: t) = String.utf8EncodeChar x ++ t.utf8 := rfl
  by_cases narrow : x.toNat < 128
  · rw [whole, utf8EncodeChar_of_lt narrow, List.singleton_append,
      matches_cons_cons (byte_ne letter).1, fits_iff letter (by omega), ← toNat_toLower,
      Char.toNat_inj, eq_comm]
  · obtain ⟨n, rest, encoded, wide, small⟩ := exists_utf8EncodeChar (Nat.le_of_not_lt narrow)
    have lower := toNat_toLower c
    have same := toNat_toLower x
    rw [whole, encoded, List.cons_append, matches_cons_cons (byte_ne letter).1,
      fits_iff letter small]
    constructor
    · rintro ⟨fit, -⟩
      grind
    · rintro ⟨equal, -⟩
      grind

end Letter

theorem matches_iff_of_letters {p : Text} (letters : ∀ c ∈ p, c.isAlpha) (t : Text) :
    Matches p.utf8 t.utf8 ↔ t.lower = p.lower := by
  induction p generalizing t with
  | nil =>
    have nothing : t.utf8 = [] ↔ t = [] := by
      cases t <;> simp [utf8, String.utf8EncodeChar_ne_nil]
    exact matches_nil.trans (nothing.trans List.map_eq_nil_iff.symm)
  | cons c p ih =>
    obtain ⟨letter, letters⟩ := List.forall_mem_cons.1 letters
    have narrow : c.toNat < 128 := by
      have := isAlpha_iff.1 letter
      omega
    have whole : utf8 (c :: p) = UInt8.ofNat c.toNat :: utf8 p :=
      congrArg (· ++ utf8 p) (utf8EncodeChar_of_lt narrow)
    rw [whole]
    cases t with
    | nil => exact iff_of_false (not_matches_nil (byte_ne letter).1) nofun
    | cons x t =>
      rw [matches_cons_letter letter, ih letters]
      simp [lower]

/-- A pattern of letters matches the texts that are equal to it up to letter case. -/
theorem isMatch_of_letters {p : Text} (letters : ∀ c ∈ p, c.isAlpha) (t : Text) :
    isMatch p.utf8 t.utf8 = t.eqIgnoringCase p := by
  rw [Bool.eq_iff_iff, isMatch_iff, eqIgnoringCase, beq_iff_eq]
  exact matches_iff_of_letters letters t

end Like

end JoinSheet
