import JoinSheet.Proofs.Formula.Naming
import JoinSheet.Proofs.Sheet.DefaultName
import Mathlib.Data.List.Shortlex
import Mathlib.Data.Set.Function

/-!
# The order of default names

The default names are all texts of capital letters, each of them once. A longer name comes later,
and names of one length come in the order of the alphabet. Each of them can stand in front of the
digits of a row, also those that look like the exponent of a number or like a truth value.

## Main statements

* `shortlex_defaultColumnName` — a later name is longer, or as long and later in the alphabet.
* `exists_defaultColumnName_eq` — every text of capital letters is a default name.
* `Reference.nameable_of_isUpper` — capital letters name a column in front of a row.
* `defaultColumnName_enumerates` — all of this for default names.
-/

namespace JoinSheet

/-! ## The order of names -/

/-- One more character on both sides does not matter for texts that differ before it. -/
theorem shortlex_concat {s t : Text} (h : List.Shortlex (· < ·) s t) (c d : Char) :
    List.Shortlex (· < ·) (s ++ [c]) (t ++ [d]) := by
  obtain shorter | ⟨same, before⟩ := List.shortlex_def.1 h
  · exact .of_length_lt (by simpa using shorter)
  · refine .of_lex (by simpa using same) ?_
    clear h
    induction before with
    | nil => simp at same
    | cons _ ih => exact .cons (ih (by simpa using same))
    | rel less => exact .rel less

theorem lastLetter_lt {i j : Nat} (h : i % 26 < j % 26) :
    Char.ofNat ('A'.toNat + i % 26) < Char.ofNat ('A'.toNat + j % 26) := by
  have codes := Nat.add_lt_add_left h 'A'.toNat
  rw [← toNat_lastLetter i, ← toNat_lastLetter j] at codes
  exact UInt32.lt_iff_toNat_lt.2 codes

theorem shortlex_of_lt {i j : Nat} (h : i < j) :
    List.Shortlex (· < ·) (defaultColumnName i) (defaultColumnName j) := by
  induction i using Nat.strongRecOn generalizing j with
  | ind i ih =>
    obtain hj | hj := Nat.lt_or_ge j 26
    · rw [defaultColumnName_of_lt (by omega), defaultColumnName_of_lt hj,
        List.shortlex_singleton_iff]
      exact lastLetter_lt (by omega)
    · rw [defaultColumnName_of_le hj]
      obtain hi | hi := Nat.lt_or_ge i 26
      · -- One letter stands against at least two.
        rw [defaultColumnName_of_lt hi]
        refine .of_length_lt ?_
        have written := List.length_pos_iff.2 (defaultColumnName_ne_nil (j / 26 - 1))
        rw [List.length_append, List.length_singleton, List.length_singleton]
        omega
      · rw [defaultColumnName_of_le hi]
        obtain same | less : i / 26 - 1 = j / 26 - 1 ∨ i / 26 - 1 < j / 26 - 1 := by omega
        · rw [same]
          refine List.Shortlex.append_left ?_ _
          rw [List.shortlex_singleton_iff]
          exact lastLetter_lt (by omega)
        · exact shortlex_concat (ih _ (by omega) less) _ _

/-- A later name is longer, or as long and later in the alphabet. -/
theorem shortlex_defaultColumnName (i j : Nat) :
    List.Shortlex (· < ·) (defaultColumnName i) (defaultColumnName j) ↔ i < j := by
  refine ⟨fun before => ?_, shortlex_of_lt⟩
  by_contra late
  obtain rfl | less := Nat.eq_or_lt_of_le (Nat.le_of_not_lt late)
  · exact Std.Asymm.asymm _ _ before before
  · exact Std.Asymm.asymm _ _ before (shortlex_of_lt less)

/-! ## All names -/

/-- The capital letters, counted from the first one. -/
theorem exists_letter {c : Char} (h : c.isUpper) : ∃ k < 26, c = Char.ofNat ('A'.toNat + k) := by
  have bounds := Text.isUpper_iff.1 h
  refine ⟨c.toNat - 65, by omega, ?_⟩
  have code : 'A'.toNat + (c.toNat - 65) = c.toNat := Nat.add_sub_cancel' bounds.1
  rw [code, Char.ofNat_toNat]

/-- Every text of capital letters is a default name. -/
theorem exists_defaultColumnName_eq {t : Text} (written : t ≠ []) (letters : ∀ c ∈ t, c.isUpper) :
    ∃ index, defaultColumnName index = t := by
  induction t using List.reverseRecOn with
  | nil => exact absurd rfl written
  | append_singleton t c ih =>
    obtain ⟨front, last⟩ := List.forall_mem_append.1 letters
    obtain ⟨k, small, rfl⟩ := exists_letter (last c (List.mem_singleton_self c))
    by_cases alone : t = []
    · refine ⟨k, ?_⟩
      rw [defaultColumnName_of_lt small, Nat.mod_eq_of_lt small, alone, List.nil_append]
    · obtain ⟨index, rfl⟩ := ih alone front
      refine ⟨26 * (index + 1) + k, ?_⟩
      have before : (26 * (index + 1) + k) / 26 - 1 = index := by omega
      have letter : (26 * (index + 1) + k) % 26 = k := by omega
      rw [defaultColumnName_of_le (by omega), before, letter]

/-! ## Names in front of rows -/

namespace Reference

variable {name : Text}

/-- No numeral starts with a capital letter, for the letter of an exponent stands behind digits. -/
theorem ofText?_of_isUpper {c : Char} (h : c.isUpper) (t : Text) :
    Numeral.ofText? (c :: t) = none := by
  by_cases exponent : c = 'E'
  · subst exponent
    have split : Numeral.magnitude? ([] ++ 'E' :: t) = _ :=
      Numeral.magnitude?_append_cons (by simp) (.inr rfl) t
    rw [Numeral.ofText?_of_head? (by simp), ← List.nil_append ('E' :: t), split]
    rfl
  · obtain ⟨k, small, rfl⟩ := exists_letter h
    have other : ∀ k < 26, Char.ofNat ('A'.toNat + k) ≠ 'E' →
        ¬Numeral.IsMark (Char.ofNat ('A'.toNat + k)) := by decide
    exact Numeral.ofText?_eq_none List.mem_cons_self (other k small exponent)

/-- Capital letters name a column in front of a row. -/
theorem nameable_of_isUpper (written : name ≠ []) (letters : ∀ c ∈ name, c.isUpper) :
    Nameable name := by
  have plain : ∀ c ∈ name, Lexeme.isDelimiter c = false ∧ ¬c.isDigit ∧ c ≠ ':' := by
    have all : ∀ k < 26, Lexeme.isDelimiter (Char.ofNat ('A'.toNat + k)) = false ∧
        ¬(Char.ofNat ('A'.toNat + k)).isDigit ∧ Char.ofNat ('A'.toNat + k) ≠ ':' := by decide
    intro c mem
    obtain ⟨k, small, rfl⟩ := exists_letter (letters c mem)
    exact all k small
  refine ⟨?_, fun c last => (plain c (List.mem_of_getLast? last)).2.1,
    fun mem => (plain _ mem).2.2 rfl, ?_⟩
  · obtain ⟨c, rest, rfl⟩ := List.exists_cons_of_ne_nil written
    obtain ⟨first, others⟩ := List.forall_mem_cons.1 plain
    have alone : Lexeme.IsWord [c] := by
      rw [← List.nil_append [c], Lexeme.isWord_concat]
      exact ⟨by simp [Lexeme.continuesWord, first.1], .inr rfl⟩
    exact Lexeme.isWord_append alone fun d mem => (others d mem).1
  · obtain ⟨c, rest, rfl⟩ := List.exists_cons_of_ne_nil written
    exact ofText?_of_isUpper (letters c List.mem_cons_self) _

end Reference

/-- The default names are all texts of capital letters, each of them once, the shorter ones first
and those of one length in the order of the alphabet. Whatever the name and the row are, a formula
of both is a single operand that refers to the cell of this column in this row. -/
theorem defaultColumnName_enumerates :
    Set.BijOn defaultColumnName Set.univ {t | t ≠ [] ∧ ∀ c ∈ t, 'A' ≤ c ∧ c ≤ 'Z'} ∧
    (∀ i j, i < j ↔ List.Shortlex (· < ·) (defaultColumnName i) (defaultColumnName j)) ∧
    ∀ index row, 1 ≤ row → row ≤ maxRow → ∀ marker,
      Formula.scan marker (marker :: (defaultColumnName index ++ Text.ofNat row)) =
        .ok [⟨.operand, .range, defaultColumnName index ++ Text.ofNat row, none⟩] ∧
      Reference.read (defaultColumnName index ++ Text.ofNat row) =
        .ok (.cell (defaultColumnName index) row) := by
  have capital (c : Char) : c.isUpper ↔ 'A' ≤ c ∧ c ≤ 'Z' := by
    rw [Text.isUpper_iff, Char.le_def, Char.le_def, UInt32.le_iff_toNat_le, UInt32.le_iff_toNat_le]
    rfl
  refine ⟨⟨fun index _ => ⟨defaultColumnName_ne_nil index, fun c mem => ?_⟩,
      defaultColumnName_injective.injOn, ?_⟩,
    fun i j => (shortlex_defaultColumnName i j).symm, fun index row first last marker => ?_⟩
  · exact (capital c).1 (isUpper_of_mem_defaultColumnName mem)
  · rintro t ⟨written, letters⟩
    obtain ⟨index, named⟩ := exists_defaultColumnName_eq written fun c mem =>
      (capital c).2 (letters c mem)
    exact ⟨index, trivial, named⟩
  · have nameable : Reference.Nameable (defaultColumnName index) :=
      Reference.nameable_of_isUpper (defaultColumnName_ne_nil index) fun c =>
        isUpper_of_mem_defaultColumnName
    exact ⟨nameable.operand row ▸ nameable.scan marker row, nameable.read ⟨first, last⟩⟩

/-- The fifth column has the letter of an exponent for its name, and stands in front of the last
row. -/
theorem defaultColumnName_enumerates_exponent :
    1 ≤ 4294967295 ∧ 4294967295 ≤ maxRow ∧ defaultColumnName 4 = "E" ∧
      Formula.scan '=' "=E4294967295" = .ok [⟨.operand, .range, "E4294967295", none⟩] ∧
      Reference.read "E4294967295" = .ok (.cell "E" 4294967295) := by
  have name : defaultColumnName 4 = "E" := defaultColumnName_of_lt (by decide)
  have digits : Text.ofNat 4294967295 = "4294967295" := by decide +kernel
  have reads := defaultColumnName_enumerates.2.2 4 4294967295 (by decide) (by decide) '='
  rw [name, digits] at reads
  exact ⟨by decide, by decide, name, reads⟩

end JoinSheet
