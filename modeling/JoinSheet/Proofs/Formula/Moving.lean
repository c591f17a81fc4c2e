import JoinSheet.Proofs.Formula.Quoted
import JoinSheet.Proofs.Formula.Reading

/-!
# Moved formulas

A reference that is moved keeps its column, and its rows stay digits. So it remains a word that ends
where it ended before, and the tokens of a moved formula are read back from the text they spell.

## Main definitions

* `Reference.Spells` — how a text that names a reference is made up.

## Main statements

* `Reference.spells_of_read` — a text that is read as a reference is made up as one.
* `Reference.Spells.isWord_toText` — a moved reference is a word in the place of the old one.
* `Formula.scan_render_moved` — a moved formula that is written and read again.
-/

namespace JoinSheet

open Lexeme

/-! ## References -/

namespace Reference

variable {t column : Text} {r r' : Reference} {row : Option Nat} {offset : Int}

/-- The rows that a bound of a reference can name. -/
def IsRow (row : Nat) : Prop := 1 ≤ row ∧ row ≤ maxRow

/-- The text names the column of the reference before each of its bounds, and nothing else. -/
inductive Spells : Text → Reference → Prop where
  | cell {column digits : Text} {row : Nat} (named : column ≠ []) (valid : IsRow row) :
      Spells (column ++ digits) (.cell column row)
  | span {column digits digits' : Text} {first last : Option Nat} (named : column ≠ [])
      (validFirst : ∀ n ∈ first, IsRow n) (validLast : ∀ n ∈ last, IsRow n)
      (ordered : reversed first last = false) :
      Spells (column ++ digits ++ ':' :: (column ++ digits')) (.span column first last)

theorem readSide_eq_ok (h : readSide t = .ok (column, row)) :
    column ≠ [] ∧ (∀ n ∈ row, IsRow n) ∧ ∃ digits, t = column ++ digits := by
  have whole := Text.dropTrailing_append_trailing Char.isDigit t
  unfold readSide at h
  dsimp only at h
  split at h
  · cases h
  next named =>
    split at h
    · cases h
      exact ⟨named, by simp, _, whole.symm⟩
    · split at h
      next valid =>
        cases h
        exact ⟨named, by simpa [IsRow] using valid, _, whole.symm⟩
      · cases h

/-- A text that is read as a reference is made up as one. -/
theorem spells_of_read (h : read t = .ok r) : Spells t r := by
  unfold read at h
  split at h
  · obtain ⟨⟨column, row⟩, side, h⟩ := Except.bind_eq_ok.1 h
    obtain ⟨named, valid, digits, rfl⟩ := readSide_eq_ok side
    cases row with
    | none => cases h
    | some row =>
      cases h
      exact .cell named (valid row rfl)
  next start stop cut =>
    obtain ⟨⟨column, first⟩, side, rest⟩ := Except.bind_eq_ok.1 h
    obtain ⟨⟨column', last⟩, side', checked⟩ := Except.bind_eq_ok.1 rest
    dsimp only at checked
    split at checked
    · cases checked
    next same =>
      obtain rfl : column = column' := by simpa using same
      split at checked
      · cases checked
      next ordered =>
        cases checked
        obtain ⟨named, validFirst, digits, rfl⟩ := readSide_eq_ok side
        obtain ⟨-, validLast, digits', rfl⟩ := readSide_eq_ok side'
        rw [Text.append_of_cut? cut]
        exact .span named validFirst validLast (by simpa using ordered)

/-- A reference that is read covers at least one row, and only rows that a sheet can have. -/
theorem rows_of_read (h : read t = .ok r) :
    1 ≤ r.firstRow ∧ r.firstRow ≤ r.lastRow maxRow ∧ r.lastRow maxRow ≤ maxRow := by
  cases spells_of_read h with
  | cell named valid => exact ⟨valid.1, Nat.le_refl _, valid.2⟩
  | @span _ _ _ first last named validFirst validLast ordered =>
    have lower : 1 ≤ first.getD 1 ∧ first.getD 1 ≤ maxRow := by
      cases first with
      | none => decide
      | some n => exact validFirst n rfl
    have upper : 1 ≤ last.getD maxRow ∧ last.getD maxRow ≤ maxRow := by
      cases last with
      | none => decide
      | some n => exact validLast n rfl
    refine ⟨lower.1, ?_, upper.2⟩
    cases first with
    | none => exact upper.1
    | some n =>
      cases last with
      | none => exact lower.2
      | some m =>
        change n ≤ m
        simpa [reversed] using ordered

theorem isDigit_ofNat {n : Nat} {c : Char} (h : c ∈ Text.ofNat n) : c.isDigit :=
  Nat.isDigit_of_mem_toDigits (by decide) (by decide) h

theorem isDelimiter_of_isDigit {c : Char} (h : c.isDigit) : isDelimiter c = false := by
  have (c' : Char) (other : c'.isDigit = false) : c ≠ c' := by
    rintro rfl
    simp [h] at other
  simp [isDelimiter, isSpace, isOperatorChar, isArrayChar, this]

theorem not_isDelimiter_boundText {bound : Option Nat} {c : Char} (h : c ∈ boundText bound) :
    isDelimiter c = false := by
  cases bound with
  | none => cases h
  | some row => exact isDelimiter_of_isDigit (isDigit_ofNat h)

/-- A moved reference has the column of the old one, and bounds where that one has any. -/
theorem shift_eq_ok (h : r.shift offset = .ok r') : match r with
    | cell column _ => ∃ row, r' = .cell column row
    | span column _ _ => ∃ first last, r' = .span column first last := by
  cases r with
  | cell column row =>
    obtain ⟨row', -, h⟩ := Except.bind_eq_ok.1 h
    cases h
    exact ⟨row', rfl⟩
  | span column first last =>
    obtain ⟨first', -, h⟩ := Except.bind_eq_ok.1 h
    obtain ⟨last', -, h⟩ := Except.bind_eq_ok.1 h
    cases h
    exact ⟨first', last', rfl⟩

/-- A text that ends with a digit cannot go on with the sign of an exponent. -/
theorem isExponentStem_append_digits (w : Text) {digits : Text} (written : digits ≠ [])
    (all : ∀ c ∈ digits, c.isDigit) : isExponentStem (w ++ digits).reverse = false := by
  have digit := all _ (List.getLast_mem written)
  have letter (c : Char) (other : c.isDigit = false) : digits.getLast written ≠ c := by
    rintro rfl
    simp [digit] at other
  rw [← List.dropLast_concat_getLast written, ← List.append_assoc, List.reverse_append]
  simp [isExponentStem, letter]

/-- A moved reference is a word that starts like the old one, and no sign belongs to it. -/
theorem isWord_of_shift (h : read t = .ok r) (word : IsWord t) (moved : r.shift offset = .ok r') :
    IsWord r'.toText ∧ r'.toText.head? = t.head? ∧ isExponentStem r'.toText.reverse = false := by
  cases spells_of_read h with
  | @cell column digits row named valid =>
    obtain ⟨row', rfl⟩ := shift_eq_ok moved
    have number : Text.ofNat row' ≠ [] := Nat.toDigits_ne_nil
    refine ⟨isWord_append (word.of_append named) ?_, ?_, ?_⟩
    · exact fun c hc => isDelimiter_of_isDigit (isDigit_ofNat hc)
    · rw [toText, List.head?_append_of_ne_nil _ named, List.head?_append_of_ne_nil _ named]
    · exact isExponentStem_append_digits column number fun c => isDigit_ofNat
  | @span column digits digits' first last named _ _ _ =>
    obtain ⟨first', last', rfl⟩ := shift_eq_ok moved
    have split : column ++ digits ++ ':' :: (column ++ digits') =
        column ++ digits ++ [':'] ++ column ++ digits' := by simp
    -- No number has a colon, so the column behind it has no signs.
    have plain : ∀ c ∈ column, isDelimiter c = false := by
      rw [split, List.append_assoc] at word
      intro c hc
      exact word.not_isDelimiter (d := ':') (by simp) (by decide) c (List.mem_append_left _ hc)
    have front : IsWord column := by
      rw [List.append_assoc] at word
      exact word.of_append named
    refine ⟨?_, ?_, ?_⟩
    · rw [toText, List.append_assoc, List.append_assoc]
      refine isWord_append front fun c hc => ?_
      simp only [List.mem_append, List.mem_cons] at hc
      obtain hc | (rfl | hc) | hc := hc
      · exact not_isDelimiter_boundText hc
      · rfl
      · exact plain c hc
      · exact not_isDelimiter_boundText hc
    · simp only [toText, List.append_assoc, List.head?_append_of_ne_nil _ named]
    · exact isExponentStem_eq_false (c := ':') (by simp [toText]) (by decide)

end Reference

/-! ## Tokens -/

namespace Formula

variable {s s' u : Surroundings} {l : Lexeme} {ls : List Lexeme} {t m : Token} {ts ms : List Token}
  {marker : Char} {text : Text} {offset : Int} {next : Option Char}

/-- Surroundings in which every lexeme is read alike. -/
structure Surroundings.Alike (s u : Surroundings) : Prop where
  opened : s.opened = u.opened
  endsValue : s.previous.any endsValue = u.previous.any endsValue

theorem tokenOf_of_alike (alike : s.Alike u) (h : tokenOf s l = .ok (t, s')) :
    ∃ u', tokenOf u l = .ok (t, u') ∧ s'.Alike u' := by
  obtain ⟨opened, value⟩ := alike
  cases l <;> simp only [tokenOf] at h ⊢
  case word =>
    cases h
    exact ⟨_, rfl, opened, rfl⟩
  case quoted =>
    cases h
    exact ⟨_, rfl, opened, rfl⟩
  case blanks =>
    cases h
    exact ⟨_, rfl, opened, value⟩
  case operator w =>
    cases h
    have same : operatorToken u.previous w = operatorToken s.previous w := by
      simp only [operatorToken, value]
    rw [same]
    exact ⟨_, rfl, opened, rfl⟩
  case opener =>
    cases h
    exact ⟨_, rfl, by rw [opened], rfl⟩
  case closer =>
    rw [← opened]
    split at h
    · cases h
    · cases h
      exact ⟨_, rfl, rfl, rfl⟩
  case comma =>
    cases h
    rw [opened]
    exact ⟨_, rfl, rfl, rfl⟩
  case unsupported => cases h
  case unclosed => cases h

/-- Only a word is read as a reference. -/
theorem eq_word_of_isRange (h : tokenOf s l = .ok (t, s')) (complete : l.IsCompleteBefore next)
    (range : t.isRange) :
    ∃ w, l = .word w ∧ t = Token.operand w ∧ s' = { s with previous := some t } := by
  cases l <;> simp only [tokenOf] at h
  case word w =>
    cases h
    exact ⟨w, rfl, rfl, rfl⟩
  case quoted w =>
    cases h
    simp [Token.isRange, Token.operand, head?_of_isCompleteBefore complete] at range
  case operator =>
    cases h
    simp only [operatorToken] at range
    split_ifs at range <;> cases range
  case closer =>
    split at h
    · cases h
    · cases h
      split_ifs at range <;> cases range
  all_goals cases h
  case comma => split_ifs at range <;> cases range
  case opener => split_ifs at range <;> cases range
  case blanks => cases range

/-- A moved formula is read from lexemes that differ from the old ones in their references only. -/
theorem Reads.moved (h : Reads s ls ts s') (separated : Separated ls) (alike : s.Alike u)
    (each : List.Forall₂ (fun t m => shiftToken offset t = .ok m) ts ms) :
    ∃ ks u', Reads u ks ms u' ∧ s'.Alike u' ∧ Separated ks ∧
      (Lexeme.spell ks).head? = (Lexeme.spell ls).head? := by
  induction h generalizing u ms with
  | nil s =>
    obtain rfl := List.forall₂_nil_left_iff.1 each
    exact ⟨[], u, .nil u, alike, trivial, rfl⟩
  | @cons s mid s' l ls t ts first rest ih =>
    obtain ⟨m, ms, shiftedToken, others, rfl⟩ := List.forall₂_cons_left_iff.1 each
    obtain ⟨complete, separated⟩ := separated
    unfold shiftToken at shiftedToken
    split at shiftedToken
    next range =>
      obtain ⟨w, rfl, rfl, rfl⟩ := eq_word_of_isRange first complete range
      obtain ⟨r, read, shiftedToken⟩ := Except.bind_eq_ok.1 shiftedToken
      obtain ⟨r', shifted, shiftedToken⟩ := Except.bind_eq_ok.1 shiftedToken
      cases shiftedToken
      obtain ⟨word, ends⟩ := isCompleteBefore_word.1 complete
      rw [Token.text_operand] at read
      obtain ⟨word', start, stem⟩ := Reference.isWord_of_shift read word shifted
      have now : Surroundings.Alike { s with previous := some (Token.operand w) }
          { u with previous := some (Token.operand r'.toText) } :=
        ⟨alike.opened, by simp [endsValue]⟩
      obtain ⟨ks, u', read', later, separated', same⟩ := ih separated now others
      have ends' : ∀ c ∈ (Lexeme.spell ks).head?,
          ¬continuesWord r'.toText.reverse c ∧ c ≠ '(' := by
        rw [same]
        intro c hc
        obtain ⟨stops, group⟩ := ends c hc
        rw [continuesWord_eq_not_isDelimiter stem]
        exact ⟨by simp [isDelimiter_of_not_continuesWord stops], group⟩
      refine ⟨.word r'.toText :: ks, u', .cons rfl read', later,
        ⟨isCompleteBefore_word.2 ⟨word', ends'⟩, separated'⟩, ?_⟩
      simp [Lexeme.text, List.head?_append, start, same]
    next =>
      cases shiftedToken
      obtain ⟨u₁, first', now⟩ := tokenOf_of_alike alike first
      obtain ⟨ks, u', read', later, separated', same⟩ := ih separated now others
      exact ⟨l :: ks, u', .cons first' read', later, ⟨same ▸ complete, separated'⟩,
        by simp [List.head?_append, same]⟩

/-- A moved formula that is written and read again. -/
theorem scan_render_moved (h : scan marker text = .ok ts) (moved : shift offset ts = .ok ms) :
    scan marker (Token.render marker ms) = .ok ms := by
  have each := Except.mapM_eq_ok.1 moved
  by_cases formula : text.head? = some marker
  · obtain ⟨body, rfl⟩ := List.head?_eq_some_iff.1 formula
    obtain ⟨s, read, closed⟩ := (scan_formula marker body).1 h
    obtain ⟨ks, u, read', alike, separated, -⟩ :=
      read.moved (ofText_eq_iff.1 rfl).2 ⟨rfl, rfl⟩ each
    rw [render_of_kind_ne_literal read'.kind_ne_literal, read'.spell]
    refine (scan_formula marker _).2 ⟨u, ?_, alike.opened ▸ closed⟩
    rwa [ofText_eq_iff.2 ⟨rfl, separated⟩]
  · -- A literal is no reference.
    rw [scan_literal formula] at h
    cases h
    obtain ⟨m, _, same, nothing, rfl⟩ := List.forall₂_cons_left_iff.1 each
    obtain rfl := List.forall₂_nil_left_iff.1 nothing
    obtain rfl : Token.ofLiteral text = m := by
      have plain : (Token.ofLiteral text).isRange = false := by
        unfold Token.ofLiteral
        split <;> rfl
      simpa [shiftToken, plain] using same
    rw [render_literal, scan_literal formula]

end Formula

end JoinSheet
