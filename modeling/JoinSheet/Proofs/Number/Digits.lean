import JoinSheet.Proofs.Number.Reading
import Mathlib.Data.List.Induction

/-!
# Digits and the numbers that they write

A natural number is written without zeros in front, and every run of digits is what its number is
written as with some zeros in front of it.

## Main statements

* `Text.ofNat_ofDigitChars_of_pos` — the number that digits denote, written again.
-/

namespace JoinSheet.Text

variable {digits : Text} {c : Char}

theorem exists_digitChar (h : c.isDigit) : ∃ d < 10, c = Nat.digitChar d := by
  have bounds : 48 ≤ c.toNat ∧ c.toNat ≤ 57 := by
    simpa [Char.isDigit, UInt32.le_iff_toNat_le] using h
  refine ⟨c.toNat - 48, by omega, Char.toNat_inj.1 ?_⟩
  rw [Nat.toNat_digitChar_of_lt_ten (by omega)]
  omega

theorem ofDigitChars_concat (digits : Text) {d : Nat} (small : d < 10) :
    Nat.ofDigitChars 10 (digits ++ [d.digitChar]) 0 = 10 * Nat.ofDigitChars 10 digits 0 + d := by
  rw [Nat.ofDigitChars_append, Nat.ofDigitChars_cons_digitChar_of_lt_ten small,
    Nat.ofDigitChars_nil]

/-- Digits that start with another one than zero are how their number is written. -/
theorem ofNat_ofDigitChars (h : ∀ c ∈ digits, c.isDigit) (first : ∃ c ∈ digits.head?, c ≠ '0') :
    0 < Nat.ofDigitChars 10 digits 0 ∧ ofNat (Nat.ofDigitChars 10 digits 0) = digits := by
  induction digits using List.reverseRecOn with
  | nil => simp at first
  | append_singleton digits c ih =>
    obtain ⟨d, small, rfl⟩ := exists_digitChar (h c (by simp))
    rw [ofDigitChars_concat digits small]
    cases digits with
    | nil =>
      have positive : 0 < d := by
        refine Nat.pos_of_ne_zero ?_
        rintro rfl
        simp at first
      simpa [ofNat, Nat.toDigits_of_lt_base small] using positive
    | cons c digits =>
      obtain ⟨positive, written⟩ :=
        ih (fun c mem => h c (List.mem_append_left _ mem)) (by simpa using first)
      refine ⟨by omega, ?_⟩
      rw [ofNat, ← Nat.toDigits_append_toDigits (by decide) positive small,
        Nat.toDigits_of_lt_base small]
      exact congrArg (· ++ [d.digitChar]) written

theorem ofDigitChars_dropWhile_zero (digits : Text) :
    Nat.ofDigitChars 10 (digits.dropWhile (· = '0')) 0 = Nat.ofDigitChars 10 digits 0 := by
  induction digits with
  | nil => rfl
  | cons c digits ih =>
    by_cases zero : c = '0'
    · subst zero
      rw [List.dropWhile_cons_of_pos (by simp), ih, Nat.ofDigitChars_cons]
      rfl
    · rw [List.dropWhile_cons_of_neg (by simpa using zero)]

/-- The number that digits denote is written without the zeros in front of them. -/
theorem ofNat_ofDigitChars_of_pos (h : ∀ c ∈ digits, c.isDigit)
    (positive : 0 < Nat.ofDigitChars 10 digits 0) :
    ofNat (Nat.ofDigitChars 10 digits 0) = digits.dropWhile (· = '0') := by
  have same := ofDigitChars_dropWhile_zero digits
  rw [← same] at positive ⊢
  have rest : ∀ c ∈ digits.dropWhile (· = '0'), c.isDigit := fun c mem =>
    h c ((List.dropWhile_sublist _).mem mem)
  refine (ofNat_ofDigitChars rest ?_).2
  cases left : digits.dropWhile (· = '0') with
  | nil =>
    rw [left] at positive
    cases positive
  | cons c digits' =>
    have stop := List.head?_dropWhile_not (· = '0') digits
    rw [left] at stop
    exact ⟨c, rfl, by simpa using stop⟩

end JoinSheet.Text
