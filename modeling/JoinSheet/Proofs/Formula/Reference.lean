import JoinSheet.Proofs.Formula.Naming
import JoinSheet.Proofs.Number.Digits

/-!
# The texts that are references

A reference is a column with a row behind it, or two sides around a colon that name the same column,
each with a row behind it or none. Its text may have zeros in front of a row, and is written without
them. Every reference that is read or moved is read back from what it is written as.

## Main definitions

* `Reference.IsColumn`, `Reference.WritesRow`, `Reference.WritesBound` — the parts of a reference.
* `Reference.withoutZeros` — a text without the zeros in front of its rows.
* `Reference.Moves` — the references that lie some rows apart.
* `Reference.Valid` — the references that some text spells.
* `Reference.Obtained` — the references that reading and moving lead to.

## Main statements

* `Reference.read_eq_cell`, `Reference.read_eq_span` — the texts that are read as cells and spans.
* `Reference.shift_eq_ok_iff` — where a moved reference lies.
* `Reference.Valid.read_toText` — a valid reference is read back.
* `Reference.read_grammar` — both, with the text that is written.
-/

namespace JoinSheet

theorem Text.forall_mem_trailing {p : Char → Bool} {t : Text} : ∀ c ∈ t.trailing p, p c := by
  intro c mem
  rw [Text.trailing, List.mem_reverse] at mem
  exact (List.all_eq_true.1 List.all_takeWhile) c mem

namespace Reference

variable {t column digits digits' : Text} {row : Nat} {bound first last : Option Nat}
  {r r' : Reference} {offset : Int}

/-! ## The parts of a reference -/

/-- A column as a reference names it. Digits at its end would belong to the row. -/
structure IsColumn (column : Text) : Prop where
  named : column ≠ []
  noColon : ':' ∉ column
  ends : ∀ c ∈ column.getLast?, ¬c.isDigit

/-- Digits, zeros in front included, that denote a row of a sheet. -/
structure WritesRow (digits : Text) (row : Nat) : Prop where
  run : digits.IsDigits
  value : Nat.ofDigitChars 10 digits 0 = row
  valid : IsRow row

/-- The digits of a bound. There are none for an open one. -/
def WritesBound (digits : Text) : Option Nat → Prop
  | none => digits = []
  | some row => WritesRow digits row

theorem WritesBound.isDigit (h : WritesBound digits bound) : ∀ c ∈ digits, c.isDigit := by
  cases bound with
  | none =>
    obtain rfl : digits = [] := h
    simp
  | some row => exact h.run.all

theorem writesRow_ofNat (valid : IsRow row) : WritesRow (Text.ofNat row) row :=
  ⟨Text.isDigits_ofNat row, Nat.ofDigitChars_ten_toDigits, valid⟩

theorem writesBound_boundText (valid : ∀ n ∈ bound, IsRow n) :
    WritesBound (boundText bound) bound := by
  cases bound with
  | none => rfl
  | some row => exact writesRow_ofNat (valid row rfl)

theorem WritesBound.boundText_eq (h : WritesBound digits bound) :
    boundText bound = digits.dropWhile (· = '0') := by
  cases bound with
  | none =>
    obtain rfl : digits = [] := h
    rfl
  | some row =>
    obtain ⟨run, rfl, valid⟩ : WritesRow digits row := h
    exact Text.ofNat_ofDigitChars_of_pos run.all valid.1

/-! ## One side -/

/-- One side of a reference is a column with the digits of a bound behind it. -/
theorem readSide_eq_ok_iff : readSide t = .ok (column, bound) ↔
    ∃ digits, t = column ++ digits ∧ column ≠ [] ∧ (∀ c ∈ column.getLast?, ¬c.isDigit) ∧
      WritesBound digits bound := by
  constructor
  · intro h
    have whole := Text.dropTrailing_append_trailing Char.isDigit t
    have ends := getLast?_dropTrailing t
    have run : ∀ c ∈ t.trailing Char.isDigit, c.isDigit := Text.forall_mem_trailing
    unfold readSide at h
    generalize t.dropTrailing Char.isDigit = front at h whole ends
    generalize t.trailing Char.isDigit = back at h whole run
    dsimp only at h
    split at h
    · cases h
    next named =>
      split at h
      next none =>
        cases h
        exact ⟨back, whole.symm, named, ends, none⟩
      next written =>
        split at h
        next valid =>
          cases h
          exact ⟨back, whole.symm, named, ends, ⟨written, run⟩, rfl, valid⟩
        · cases h
  · rintro ⟨digits, rfl, named, ends, writes⟩
    obtain ⟨front, back⟩ := dropTrailing_append ends writes.isDigit
    rw [readSide, front, back]
    cases bound with
    | none =>
      obtain rfl : digits = [] := writes
      simp [named]
    | some row =>
      obtain ⟨run, rfl, valid⟩ : WritesRow digits row := writes
      have valid : 1 ≤ Nat.ofDigitChars 10 digits 0 ∧ Nat.ofDigitChars 10 digits 0 ≤ maxRow := valid
      simp only [named, run.written, if_false, if_pos valid]

/-! ## Whole references -/

theorem noColon_append (isColumn : IsColumn column) (digit : ∀ c ∈ digits, c.isDigit) :
    ':' ∉ column ++ digits := by
  rw [List.mem_append, not_or]
  exact ⟨isColumn.noColon, fun mem => absurd (digit _ mem) (by decide)⟩

/-- A text is read as a cell if and only if it is a column with a row behind it. -/
theorem read_eq_cell : read t = .ok (.cell column row) ↔
    ∃ digits, t = column ++ digits ∧ IsColumn column ∧ WritesRow digits row := by
  constructor
  · intro h
    unfold read at h
    split at h
    next whole =>
      obtain ⟨⟨column', bound⟩, side, h⟩ := Except.bind_eq_ok.1 h
      cases bound with
      | none => cases h
      | some row' =>
        cases h
        obtain ⟨digits, rfl, named, ends, writes⟩ := readSide_eq_ok_iff.1 side
        have noColon : ':' ∉ column ++ digits := Text.cut?_eq_none.1 whole
        refine ⟨digits, rfl, ⟨named, fun mem => noColon (List.mem_append_left _ mem), ends⟩, writes⟩
    next =>
      obtain ⟨_, -, h⟩ := Except.bind_eq_ok.1 h
      obtain ⟨_, -, h⟩ := Except.bind_eq_ok.1 h
      dsimp only at h
      split at h
      · cases h
      · split at h <;> cases h
  · rintro ⟨digits, rfl, isColumn, writes⟩
    have side : readSide (column ++ digits) = .ok (column, some row) :=
      readSide_eq_ok_iff.2 ⟨digits, rfl, isColumn.named, isColumn.ends, writes⟩
    rw [read, Text.cut?_eq_none.2 (noColon_append isColumn writes.run.all)]
    simp only [side]
    rfl

theorem reversed_eq_false : reversed first last = false ↔ ∀ m ∈ first, ∀ n ∈ last, m ≤ n := by
  cases first <;> cases last <;> simp [reversed]

/-- A text is read as a span if and only if it names a column on both sides of a colon, each time
with a row behind it or none, and the rows are in order. -/
theorem read_eq_span : read t = .ok (.span column first last) ↔
    ∃ digits digits', t = column ++ digits ++ ':' :: (column ++ digits') ∧ IsColumn column ∧
      WritesBound digits first ∧ WritesBound digits' last ∧ ∀ m ∈ first, ∀ n ∈ last, m ≤ n := by
  constructor
  · intro h
    unfold read at h
    split at h
    · obtain ⟨⟨column', bound⟩, -, h⟩ := Except.bind_eq_ok.1 h
      cases bound <;> cases h
    next start stop cut =>
      obtain ⟨⟨startColumn, first'⟩, side, h⟩ := Except.bind_eq_ok.1 h
      obtain ⟨⟨stopColumn, last'⟩, side', h⟩ := Except.bind_eq_ok.1 h
      dsimp only at h
      split at h
      · cases h
      next same =>
        obtain rfl : startColumn = stopColumn := by simpa using same
        split at h
        · cases h
        next ordered =>
          cases h
          obtain ⟨digits, rfl, named, ends, writes⟩ := readSide_eq_ok_iff.1 side
          obtain ⟨digits', rfl, -, -, writes'⟩ := readSide_eq_ok_iff.1 side'
          have noColon : ':' ∉ column ++ digits := Text.notMem_of_cut? cut
          refine ⟨digits, digits', Text.append_of_cut? cut, ?_, writes, writes', ?_⟩
          · exact ⟨named, fun mem => noColon (List.mem_append_left _ mem), ends⟩
          · exact reversed_eq_false.1 (by simpa using ordered)
  · rintro ⟨digits, digits', rfl, isColumn, writes, writes', ordered⟩
    have side : readSide (column ++ digits) = .ok (column, first) :=
      readSide_eq_ok_iff.2 ⟨digits, rfl, isColumn.named, isColumn.ends, writes⟩
    have side' : readSide (column ++ digits') = .ok (column, last) :=
      readSide_eq_ok_iff.2 ⟨digits', rfl, isColumn.named, isColumn.ends, writes'⟩
    rw [read, Text.cut?_append (noColon_append isColumn writes.isDigit)]
    simp only [side, side', Except.ok_bind, ne_eq, not_true_eq_false, if_false,
      reversed_eq_false.2 ordered]
    rfl

/-! ## Writing -/

/-- One side of a reference without the zeros in front of its row. -/
def sideWithoutZeros (t : Text) : Text :=
  t.dropTrailing Char.isDigit ++ (t.trailing Char.isDigit).dropWhile (· = '0')

/-- The text of a reference without the zeros in front of its rows. -/
def withoutZeros (t : Text) : Text :=
  match t.cut? ':' with
  | none => sideWithoutZeros t
  | some (start, stop) => sideWithoutZeros start ++ ':' :: sideWithoutZeros stop

theorem toText_span (column : Text) (first last : Option Nat) : toText (.span column first last) =
    column ++ boundText first ++ ':' :: (column ++ boundText last) := by
  simp [toText]

theorem sideWithoutZeros_append (isColumn : IsColumn column) (writes : WritesBound digits bound) :
    sideWithoutZeros (column ++ digits) = column ++ boundText bound := by
  obtain ⟨front, back⟩ := dropTrailing_append isColumn.ends writes.isDigit
  rw [sideWithoutZeros, front, back, writes.boundText_eq]

/-- A reference is written as the text that spells it, without the zeros in front of its rows. -/
theorem toText_of_read (h : read t = .ok r) : r.toText = withoutZeros t := by
  cases r with
  | cell column row =>
    obtain ⟨digits, rfl, isColumn, writes⟩ := read_eq_cell.1 h
    rw [withoutZeros, Text.cut?_eq_none.2 (noColon_append isColumn writes.run.all)]
    have bound : WritesBound digits (some row) := writes
    exact (sideWithoutZeros_append isColumn bound).symm
  | span column first last =>
    obtain ⟨digits, digits', rfl, isColumn, writes, writes', -⟩ := read_eq_span.1 h
    rw [withoutZeros, Text.cut?_append (noColon_append isColumn writes.isDigit)]
    dsimp only
    rw [sideWithoutZeros_append isColumn writes, sideWithoutZeros_append isColumn writes',
      toText_span]

/-! ## Moving -/

/-- The row `row'` lies `offset` rows below `row`, and sheets have it. -/
def RowMoves (offset : Int) (row row' : Nat) : Prop := IsRow row' ∧ (row' : Int) = row + offset

/-- The references that lie `offset` rows apart. They name the same column, and a bound that is open
in one of them is open in the other. -/
inductive Moves (offset : Int) : Reference → Reference → Prop where
  | cell {column : Text} {row row' : Nat} (moves : RowMoves offset row row') :
      Moves offset (.cell column row) (.cell column row')
  | span {column : Text} {first first' last last' : Option Nat}
      (start : Option.Rel (RowMoves offset) first first')
      (stop : Option.Rel (RowMoves offset) last last') :
      Moves offset (.span column first last) (.span column first' last')

theorem shiftRow_eq_ok {row' : Nat} :
    shiftRow r offset row = .ok row' ↔ RowMoves offset row row' := by
  simp only [shiftRow, shiftRow?, RowMoves, IsRow]
  split
  next moved found =>
    split at found
    next valid =>
      cases found
      rw [Except.ok.injEq]
      omega
    · cases found
  next missing =>
    split at missing
    · cases missing
    next invalid =>
      refine ⟨nofun, fun moves => absurd ?_ invalid⟩
      omega

theorem mapM_shiftRow_eq_ok {bound' : Option Nat} : bound.mapM (shiftRow r offset) = .ok bound' ↔
    Option.Rel (RowMoves offset) bound bound' := by
  cases bound with
  | none =>
    constructor
    · rintro ⟨⟩
      exact .none
    · rintro ⟨⟩
      rfl
  | some row =>
    rw [Option.mapM_some]
    constructor
    · intro h
      obtain ⟨row', moved, rfl⟩ := Except.map_eq_ok.1 h
      exact .some (shiftRow_eq_ok.1 moved)
    · rintro ⟨moves⟩
      rw [shiftRow_eq_ok.2 moves]
      rfl

/-- The reference some rows further down is the one that lies there. -/
theorem shift_eq_ok_iff : r.shift offset = .ok r' ↔ Moves offset r r' := by
  cases r with
  | cell column row =>
    constructor
    · intro h
      obtain ⟨row', moved, h⟩ := Except.bind_eq_ok.1 h
      cases h
      exact .cell (shiftRow_eq_ok.1 moved)
    · rintro ⟨moves⟩
      exact Except.bind_eq_ok.2 ⟨_, shiftRow_eq_ok.2 moves, rfl⟩
  | span column first last =>
    constructor
    · intro h
      obtain ⟨first', start, h⟩ := Except.bind_eq_ok.1 h
      obtain ⟨last', stop, h⟩ := Except.bind_eq_ok.1 h
      cases h
      exact .span (mapM_shiftRow_eq_ok.1 start) (mapM_shiftRow_eq_ok.1 stop)
    · rintro (⟨⟩ | ⟨start, stop⟩)
      exact Except.bind_eq_ok.2 ⟨_, mapM_shiftRow_eq_ok.2 start,
        Except.bind_eq_ok.2 ⟨_, mapM_shiftRow_eq_ok.2 stop, rfl⟩⟩

/-! ## Reading back -/

/-- The references that some text spells. -/
def Valid : Reference → Prop
  | cell column row => IsColumn column ∧ IsRow row
  | span column first last => IsColumn column ∧ (∀ n ∈ first, IsRow n) ∧ (∀ n ∈ last, IsRow n) ∧
      ∀ m ∈ first, ∀ n ∈ last, m ≤ n

theorem WritesBound.isRow (h : WritesBound digits bound) : ∀ n ∈ bound, IsRow n := by
  rintro n ⟨⟩
  exact WritesRow.valid h

theorem valid_of_read (h : read t = .ok r) : r.Valid := by
  cases r with
  | cell column row =>
    obtain ⟨digits, -, isColumn, writes⟩ := read_eq_cell.1 h
    exact ⟨isColumn, writes.valid⟩
  | span column first last =>
    obtain ⟨digits, digits', -, isColumn, writes, writes', ordered⟩ := read_eq_span.1 h
    exact ⟨isColumn, writes.isRow, writes'.isRow, ordered⟩

theorem Valid.read_toText (h : r.Valid) : read r.toText = .ok r := by
  cases r with
  | cell column row =>
    obtain ⟨isColumn, valid⟩ := h
    exact read_eq_cell.2 ⟨_, rfl, isColumn, writesRow_ofNat valid⟩
  | span column first last =>
    obtain ⟨isColumn, validFirst, validLast, ordered⟩ := h
    exact read_eq_span.2 ⟨_, _, toText_span column first last, isColumn,
      writesBound_boundText validFirst, writesBound_boundText validLast, ordered⟩

theorem isRow_of_rel {bound' : Option Nat} (h : Option.Rel (RowMoves offset) bound bound') :
    ∀ n ∈ bound', IsRow n := by
  rintro n ⟨⟩
  cases h with
  | some moves => exact moves.1

/-- A moved reference is a reference. -/
theorem Valid.of_moves (h : r.Valid) (moves : Moves offset r r') : r'.Valid := by
  cases moves with
  | cell moves => exact ⟨h.1, moves.1⟩
  | span start stop =>
    refine ⟨h.1, isRow_of_rel start, isRow_of_rel stop, ?_⟩
    rintro m ⟨⟩ n ⟨⟩
    cases start with
    | some start =>
      cases stop with
      | some stop =>
        have ordered := h.2.2.2 _ rfl _ rfl
        have := start.2
        have := stop.2
        omega

/-- The references that reading leads to, and moving from there. -/
inductive Obtained : Reference → Prop where
  | read {t : Text} {r : Reference} (h : Reference.read t = .ok r) : Obtained r
  | shift {offset : Int} {r r' : Reference} (h : Obtained r) (moved : r.shift offset = .ok r') :
      Obtained r'

theorem Obtained.valid (h : Obtained r) : r.Valid := by
  induction h with
  | read h => exact valid_of_read h
  | shift _ moved ih => exact ih.of_moves (shift_eq_ok_iff.1 moved)

/-- A text is read as a reference if and only if it is made up as one. What is read is written as
the text without the zeros in front of its rows, and every reference that is read or moved is read
back from what it is written as. -/
theorem read_grammar (t : Text) :
    (∀ column row, Reference.read t = .ok (.cell column row) ↔
      ∃ digits, t = column ++ digits ∧ IsColumn column ∧ WritesRow digits row) ∧
    (∀ column first last, Reference.read t = .ok (.span column first last) ↔
      ∃ digits digits', t = column ++ digits ++ ':' :: (column ++ digits') ∧ IsColumn column ∧
        WritesBound digits first ∧ WritesBound digits' last ∧
        ∀ m ∈ first, ∀ n ∈ last, m ≤ n) ∧
    (∀ r, Reference.read t = .ok r → r.toText = withoutZeros t) ∧
    ∀ r, Obtained r → Reference.read r.toText = .ok r :=
  ⟨fun _ _ => read_eq_cell, fun _ _ _ => read_eq_span, fun _ => toText_of_read,
    fun _ obtained => obtained.valid.read_toText⟩

/-- Zeros in front of both rows, digits of another script within the column, and the span moved to
the last row. -/
theorem read_grammar_span :
    ∃ r, Reference.read "a٣.b2c007:a٣.b2c00012".toList = .ok r ∧
      r.toText = withoutZeros "a٣.b2c007:a٣.b2c00012".toList ∧
      withoutZeros "a٣.b2c007:a٣.b2c00012".toList = "a٣.b2c7:a٣.b2c12".toList ∧
      ∃ r', r.shift 4294967283 = .ok r' ∧
        r'.toText = "a٣.b2c4294967290:a٣.b2c4294967295".toList ∧
        Reference.read r'.toText = .ok r' := by
  have isRead : Reference.read "a٣.b2c007:a٣.b2c00012".toList =
      .ok (.span "a٣.b2c".toList (some 7) (some 12)) := by decide +kernel
  have moved : shift 4294967283 (.span "a٣.b2c".toList (some 7) (some 12)) =
      .ok (.span "a٣.b2c".toList (some 4294967290) (some 4294967295)) := by decide +kernel
  obtain ⟨-, -, written, back⟩ := read_grammar "a٣.b2c007:a٣.b2c00012".toList
  exact ⟨_, isRead, written _ isRead, by decide +kernel, _, moved, by decide +kernel,
    back _ (.shift (.read isRead) moved)⟩

end Reference

end JoinSheet
