import JoinSheet.Proofs.Formula.Moving
import JoinSheet.Proofs.Number.Reading

/-!
# Names in front of rows

A reference to a cell is the name of its column with the digits of its row behind it, and nothing
tells where the name ends. So not every name can stand there: it has to be a word that ends before
the digits, has no colon, and does not make a numeral with them. These names, and no others, are
read back from a formula.

## Main definitions

* `Reference.Nameable` — the names that can stand in front of the digits of a row.

## Main statements

* `Reference.Nameable.scan` — the reference that such a name makes with a row is read back.
* `Reference.nameable_iff` — no other name is read back.
-/

namespace JoinSheet

open Lexeme

namespace Lexeme

instance (w : Text) : Decidable (IsWord w) :=
  inferInstanceAs (Decidable (feedAll .idle w = ([], .word w.reverse)))

theorem IsWord.ne_nil {w : Text} (h : IsWord w) : w ≠ [] := by
  rintro rfl
  cases h

/-- A word does not start with a delimiter. -/
theorem IsWord.head_not_isDelimiter {w : Text} {c : Char} (h : IsWord w)
    (first : w.head? = some c) : isDelimiter c = false := by
  obtain ⟨rest, rfl⟩ := List.head?_eq_some_iff.1 first
  have alone : IsWord ([] ++ [c]) := IsWord.of_append (t := rest) h (by simp)
  simpa [continuesWord, isExponentStem] using (isWord_concat.1 alone).1

end Lexeme

namespace Reference

variable {name : Text} {row : Nat} {marker : Char}

/-- A name that can stand in front of the digits of a row: it is a word, it ends before the digits,
and with them it is neither a span nor a numeral. -/
structure Nameable (name : Text) : Prop where
  word : IsWord name
  ends : ∀ c ∈ name.getLast?, ¬c.isDigit
  noColon : ':' ∉ name
  noNumeral : Numeral.ofText? (name ++ ['1']) = none

instance (name : Text) : Decidable (Nameable name) :=
  have ends : (∀ c ∈ name.getLast?, ¬c.isDigit) ↔ name.getLast?.all (!·.isDigit) = true := by
    simp [Option.all_eq_true]
  decidable_of_iff (IsWord name ∧ name.getLast?.all (!·.isDigit) = true ∧ ':' ∉ name ∧
      Numeral.ofText? (name ++ ['1']) = none)
    ⟨fun ⟨isWord, last, noColon, noNumeral⟩ => ⟨isWord, ends.2 last, noColon, noNumeral⟩,
      fun h => ⟨h.word, ends.1 h.ends, h.noColon, h.noNumeral⟩⟩

/-- Whether a name makes a numeral with the digits of a row does not depend on the row. -/
theorem ofText?_append_ofNat (named : name ≠ []) (row : Nat) :
    Numeral.ofText? (name ++ Text.ofNat row) = none ↔ Numeral.ofText? (name ++ ['1']) = none := by
  have one : Text.IsDigits ['1'] := ⟨by simp, by simp [Char.isDigit]⟩
  have same := Numeral.isSome_ofText?_append (Text.isDigits_ofNat row) one named
  rw [← Option.not_isSome_iff_eq_none, ← Option.not_isSome_iff_eq_none, same]

/-- A name that does not end in a digit is told from the digits after it. -/
theorem dropTrailing_append {digits : Text} (ends : ∀ c ∈ name.getLast?, ¬c.isDigit)
    (run : ∀ c ∈ digits, c.isDigit) :
    (name ++ digits).dropTrailing Char.isDigit = name ∧
      (name ++ digits).trailing Char.isDigit = digits := by
  have digit : ∀ c ∈ digits.reverse, c.isDigit := by simpa using run
  have stop : name.reverse.dropWhile Char.isDigit = name.reverse ∧
      name.reverse.takeWhile Char.isDigit = [] := by
    rw [List.getLast?_eq_head?_reverse] at ends
    generalize name.reverse = backwards at ends
    cases backwards with
    | nil => exact ⟨rfl, rfl⟩
    | cons c rest =>
      have other : ¬c.isDigit := ends c rfl
      exact ⟨List.dropWhile_cons_of_neg other, List.takeWhile_cons_of_neg other⟩
  constructor
  · rw [Text.dropTrailing, List.reverse_append, List.dropWhile_append_of_pos digit, stop.1,
      List.reverse_reverse]
  · rw [Text.trailing, List.reverse_append, List.takeWhile_append_of_pos digit, stop.2,
      List.append_nil, List.reverse_reverse]

theorem getLast?_dropTrailing (t : Text) :
    ∀ c ∈ (t.dropTrailing Char.isDigit).getLast?, ¬c.isDigit := by
  intro c last
  have stop := List.head?_dropWhile_not Char.isDigit t.reverse
  rw [Text.dropTrailing, List.getLast?_reverse] at last
  rw [Option.mem_def.1 last] at stop
  simpa using stop

theorem toLower_of_isDigit {c : Char} (h : c.isDigit) : c.toLower = c := by
  have digit : c.toNat ≤ 57 := by
    simp only [Char.isDigit, Bool.and_eq_true, decide_eq_true_eq, UInt32.le_iff_toNat_le] at h
    exact h.2
  refine Char.toNat_inj.1 ?_
  rw [Text.toNat_toLower, if_neg (by omega)]

/-- A text that ends with a digit is no truth value. -/
theorem isLogicalText_append {digits : Text} (run : digits.IsDigits) (t : Text) :
    Token.isLogicalText (t ++ digits) = false := by
  have differs (word : Text) (last : word.lower.getLast? = some 'e') :
      (t ++ digits).eqIgnoringCase word = false := by
    rw [Text.eqIgnoringCase, beq_eq_false_iff_ne]
    intro same
    have digit := run.all _ (List.getLast_mem run.written)
    rw [← same, Text.lower, List.map_append,
      List.getLast?_append_of_ne_nil _ (by simp [run.written]), List.getLast?_map,
      List.getLast?_eq_some_getLast run.written, Option.map_some] at last
    have lowered : (digits.getLast run.written).toLower = digits.getLast run.written :=
      toLower_of_isDigit digit
    rw [lowered, Option.some.injEq] at last
    rw [last] at digit
    cases digit
  rw [Token.isLogicalText, differs _ (by decide), differs _ (by decide), Bool.or_self]

theorem column_of_readSide {t column : Text} {row : Option Nat}
    (h : readSide t = .ok (column, row)) : t.dropTrailing Char.isDigit = column := by
  unfold readSide at h
  dsimp only at h
  split at h
  · cases h
  · split at h
    · cases h
      rfl
    · split at h <;> cases h
      rfl

theorem of_read_eq_cell {t : Text} (h : Reference.read t = .ok (.cell name row)) :
    name ≠ [] ∧ ':' ∉ t ∧ t.dropTrailing Char.isDigit = name := by
  unfold Reference.read at h
  split at h
  next whole =>
    obtain ⟨⟨column, row'⟩, side, h⟩ := Except.bind_eq_ok.1 h
    cases row' with
    | none => cases h
    | some row' =>
      cases h
      exact ⟨(readSide_eq_ok side).1, Text.cut?_eq_none.1 whole, column_of_readSide side⟩
  next =>
    obtain ⟨_, -, h⟩ := Except.bind_eq_ok.1 h
    obtain ⟨_, -, h⟩ := Except.bind_eq_ok.1 h
    dsimp only at h
    split at h
    · cases h
    · split at h <;> cases h

/-- An operand that is a numeral refers to no cell. -/
theorem ofText?_eq_none_of_isRange {t : Text} (h : (Token.operand t).isRange) :
    Numeral.ofText? t = none := by
  cases numeral : Numeral.ofText? t with
  | none => rfl
  | some n =>
    simp only [Token.operand, Number.read?, numeral, Option.map_some] at h
    split at h
    · cases h
    · split at h <;> cases h

namespace Nameable

variable (h : Nameable name)

include h

theorem isWord (row : Nat) : IsWord (name ++ Text.ofNat row) :=
  isWord_append h.word fun _ mem => isDelimiter_of_isDigit (isDigit_ofNat mem)

theorem operand (row : Nat) : Token.operand (name ++ Text.ofNat row) =
    ⟨.operand, .range, name ++ Text.ofNat row, none⟩ := by
  have unquoted : (name ++ Text.ofNat row).head? ≠ some '"' := fun first =>
    absurd ((h.isWord row).head_not_isDelimiter first) (by decide)
  have noNumeral : Number.read? (name ++ Text.ofNat row) = none := by
    rw [Number.read?, (ofText?_append_ofNat h.word.ne_nil row).2 h.noNumeral, Option.map_none]
  rw [Token.operand, if_neg unquoted, isLogicalText_append (Text.isDigits_ofNat row), noNumeral]
  rfl

theorem cut?_colon (row : Nat) : (name ++ Text.ofNat row).cut? ':' = none := by
  rw [Text.cut?_append_of_not_mem ((Text.isDigits_ofNat row).not_mem rfl),
    Text.cut?_eq_none.2 h.noColon, Option.map_none]

theorem readSide (row : Nat) : Reference.readSide (name ++ Text.ofNat row) =
    if 1 ≤ row ∧ row ≤ maxRow then .ok (name, some row)
    else .error (.parse (.invalidRow (name ++ Text.ofNat row))) := by
  obtain ⟨column, digits⟩ := dropTrailing_append h.ends (Text.isDigits_ofNat row).all
  have number : Nat.ofDigitChars 10 (Text.ofNat row) 0 = row := Nat.ofDigitChars_ten_toDigits
  rw [Reference.readSide, column, digits]
  simp only [h.word.ne_nil, (Text.isDigits_ofNat row).written, number, if_false]

theorem read (valid : IsRow row) :
    Reference.read (name ++ Text.ofNat row) = .ok (.cell name row) := by
  have valid : 1 ≤ row ∧ row ≤ maxRow := valid
  rw [Reference.read, h.cut?_colon]
  simp only [h.readSide, if_pos valid]
  rfl

/-- Digits that are those of no row make no reference. -/
theorem read_beyond (beyond : ¬IsRow row) : Reference.read (name ++ Text.ofNat row) =
    .error (.parse (.invalidRow (name ++ Text.ofNat row))) := by
  have beyond : ¬(1 ≤ row ∧ row ≤ maxRow) := beyond
  rw [Reference.read, h.cut?_colon]
  simp only [h.readSide, if_neg beyond]
  rfl

/-- The reference to a cell is the only token of its formula. -/
theorem scan (marker : Char) (row : Nat) :
    Formula.scan marker (marker :: (name ++ Text.ofNat row)) =
      .ok [Token.operand (name ++ Text.ofNat row)] := by
  have alone : ofText (name ++ Text.ofNat row) = [.word (name ++ Text.ofNat row)] :=
    ofText_eq_iff.2 ⟨by simp [text], isCompleteBefore_word.2 ⟨h.isWord row, by simp⟩, trivial⟩
  rw [Formula.scan_formula, alone]
  exact ⟨_, .cons rfl (.nil _), rfl⟩

end Nameable

/-- A name can stand in front of the digits of a row if and only if the formula of both is read as
the reference to this cell. -/
theorem nameable_iff (marker : Char) (valid : IsRow row) : Nameable name ↔
    ∃ t, Formula.scan marker (marker :: (name ++ Text.ofNat row)) = .ok [t] ∧ t.isRange ∧
      Reference.read t.text = .ok (.cell name row) := by
  constructor
  · intro h
    refine ⟨_, h.scan marker row, by rw [h.operand]; rfl, ?_⟩
    rw [Token.text_operand, h.read valid]
  · rintro ⟨t, scanned, range, isRead⟩
    obtain ⟨s, reads, -⟩ := (Formula.scan_formula marker _).1 scanned
    obtain ⟨spelled, separated⟩ := ofText_eq_iff.1 (Eq.refl (ofText (name ++ Text.ofNat row)))
    generalize ofText (name ++ Text.ofNat row) = ls at reads spelled separated
    cases reads with
    | @cons _ _ _ l _ _ _ first rest =>
      cases rest
      obtain ⟨w, rfl, rfl, -⟩ := Formula.eq_word_of_isRange first separated.1 range
      obtain rfl : w = name ++ Text.ofNat row := by simpa [text] using spelled
      have isWord := (isCompleteBefore_word.1 separated.1).1
      rw [Token.text_operand] at isRead
      obtain ⟨named, noColon, column⟩ := of_read_eq_cell isRead
      have noNumeral := (ofText?_append_ofNat named row).1 (ofText?_eq_none_of_isRange range)
      refine ⟨isWord.of_append named, ?_, ?_, noNumeral⟩
      · rw [← column]
        exact getLast?_dropTrailing _
      · exact fun mem => noColon (List.mem_append_left _ mem)

end Reference

end JoinSheet
