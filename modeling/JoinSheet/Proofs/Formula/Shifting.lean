import JoinSheet.Proofs.Formula.Reference

/-!
# Formulas some rows further down

Moving a formula twice is moving it once by both distances, and moving it back restores it, with its
rows written without zeros in front. This rests on what a moved reference is: an operand that is
read as a reference again, whatever digits its rows have.

## Main definitions

* `Reference.rows` — the rows that a reference gives explicitly.
* `Token.Shifts` — a token and the one some rows further down.

## Main statements

* `Token.isRange_of_moves` — a moved reference is an operand that refers to cells.
* `Token.Shifts.trans`, `Token.Shifts.back` — the laws for one token.
* `Formula.shift_action` — the laws for the tokens of a formula, and when moving fails.
-/

namespace JoinSheet

/-! ## References -/

namespace Reference

variable {r r' r'' : Reference} {a b offset : Int}

/-- The rows that a reference gives explicitly. -/
def rows : Reference → List Nat
  | cell _ row => [row]
  | span _ first last => first.toList ++ last.toList

/-- The row that lies `offset` rows further down is one of a sheet. -/
def Stays (offset : Int) (row : Nat) : Prop :=
  1 ≤ (row : Int) + offset ∧ (row : Int) + offset ≤ maxRow

theorem RowMoves.trans {x y z : Nat} (h : RowMoves a x y) (h' : RowMoves b y z) :
    RowMoves (a + b) x z := by
  refine ⟨h'.1, ?_⟩
  rw [h'.2, h.2, Int.add_assoc]

theorem RowMoves.symm {x y : Nat} (h : RowMoves a x y) (valid : IsRow x) : RowMoves (-a) y x := by
  refine ⟨valid, ?_⟩
  rw [h.2, Int.add_neg_cancel_right]

theorem exists_rowMoves {row : Nat} : (∃ row', RowMoves offset row row') ↔ Stays offset row := by
  unfold RowMoves IsRow Stays
  constructor
  · rintro ⟨row', valid, moved⟩
    omega
  · intro stays
    exact ⟨((row : Int) + offset).toNat, by omega, by omega⟩

/-! Bounds move as rows do. -/

theorem rel_trans {x y z : Option Nat} (h : Option.Rel (RowMoves a) x y)
    (h' : Option.Rel (RowMoves b) y z) : Option.Rel (RowMoves (a + b)) x z := by
  cases h with
  | none =>
    cases h'
    exact .none
  | some h =>
    obtain ⟨h'⟩ := h'
    exact .some (h.trans h')

theorem rel_symm {x y : Option Nat} (h : Option.Rel (RowMoves a) x y) (valid : ∀ n ∈ x, IsRow n) :
    Option.Rel (RowMoves (-a)) y x := by
  cases h with
  | none => exact .none
  | some h => exact .some (h.symm (valid _ rfl))

theorem exists_rel {x : Option Nat} :
    (∃ y, Option.Rel (RowMoves offset) x y) ↔ ∀ row ∈ x.toList, Stays offset row := by
  cases x with
  | none => simpa using ⟨none, .none⟩
  | some row =>
    rw [Option.toList_some, List.forall_mem_singleton, ← exists_rowMoves]
    constructor
    · rintro ⟨_, ⟨moves⟩⟩
      exact ⟨_, moves⟩
    · rintro ⟨row', moves⟩
      exact ⟨some row', .some moves⟩

theorem Moves.trans (h : Moves a r r') (h' : Moves b r' r'') : Moves (a + b) r r'' := by
  cases h with
  | cell moves =>
    obtain ⟨moves'⟩ := h'
    exact .cell (moves.trans moves')
  | span start stop =>
    obtain ⟨⟩ | ⟨start', stop'⟩ := h'
    exact .span (rel_trans start start') (rel_trans stop stop')

theorem Moves.symm (h : Moves a r r') (valid : r.Valid) : Moves (-a) r' r := by
  cases h with
  | cell moves => exact .cell (moves.symm valid.2)
  | span start stop => exact .span (rel_symm start valid.2.1) (rel_symm stop valid.2.2.1)

theorem exists_moves : (∃ r', Moves offset r r') ↔ ∀ row ∈ r.rows, Stays offset row := by
  cases r with
  | cell column row =>
    rw [rows, List.forall_mem_singleton, ← exists_rowMoves]
    constructor
    · rintro ⟨_, ⟨moves⟩⟩
      exact ⟨_, moves⟩
    · rintro ⟨row', moves⟩
      exact ⟨_, .cell moves⟩
  | span column first last =>
    rw [rows, List.forall_mem_append, ← exists_rel, ← exists_rel]
    constructor
    · rintro ⟨_, ⟨⟩ | ⟨start, stop⟩⟩
      exact ⟨⟨_, start⟩, ⟨_, stop⟩⟩
    · rintro ⟨⟨first', start⟩, ⟨last', stop⟩⟩
      exact ⟨_, .span start stop⟩

end Reference

/-! ## Tokens -/

namespace Token

open Reference (Moves)

variable {t m k : Token} {w : Text} {r r' : Reference} {a b offset : Int}

/-- An operand refers to cells if it is neither a text, a truth value nor a number. -/
theorem isRange_operand : (operand w).isRange ↔
    w.head? ≠ some '"' ∧ isLogicalText w = false ∧ Numeral.ofText? w = none := by
  unfold operand Number.read?
  split
  next quoted => simp [isRange, quoted]
  next plain =>
    split
    next logical => simp [isRange, logical]
    next other =>
      cases Numeral.ofText? w <;> simp [isRange, plain, other]

/-- A text with a colon is no truth value. -/
theorem isLogicalText_of_colon (mem : ':' ∈ w) : isLogicalText w = false := by
  have differs (word : Text) (absent : ':' ∉ word.lower) : w.eqIgnoringCase word = false := by
    rw [Text.eqIgnoringCase, beq_eq_false_iff_ne]
    intro same
    exact absent (same ▸ List.mem_map.2 ⟨':', mem, rfl⟩)
  rw [isLogicalText, differs _ (by decide), differs _ (by decide), Bool.or_self]

/-- A moved reference is an operand that refers to cells. -/
theorem isRange_of_moves (range : (operand w).isRange) (read : Reference.read w = .ok r)
    (moves : Moves offset r r') : (operand r'.toText).isRange := by
  rw [isRange_operand] at range ⊢
  obtain ⟨unquoted, -, noNumeral⟩ := range
  cases moves with
  | @cell column row row' moves =>
    obtain ⟨digits, rfl, isColumn, writes⟩ := Reference.read_eq_cell.1 read
    have run := Text.isDigits_ofNat row'
    have same := Numeral.isSome_ofText?_append writes.run run isColumn.named
    rw [List.head?_append_of_ne_nil _ isColumn.named] at unquoted
    refine ⟨?_, Reference.isLogicalText_append run column, ?_⟩
    · rwa [Reference.toText, List.head?_append_of_ne_nil _ isColumn.named]
    · rw [← Option.not_isSome_iff_eq_none] at noNumeral ⊢
      exact fun numeral => noNumeral (same.2 numeral)
  | @span column first first' last last' start stop =>
    obtain ⟨digits, digits', rfl, isColumn, -⟩ := Reference.read_eq_span.1 read
    have colon : ':' ∈ (Reference.span column first' last').toText := by simp [Reference.toText]
    refine ⟨?_, isLogicalText_of_colon colon, Numeral.ofText?_eq_none colon (by decide)⟩
    rw [List.append_assoc, List.head?_append_of_ne_nil _ isColumn.named] at unquoted
    rwa [Reference.toText_span, List.append_assoc, List.head?_append_of_ne_nil _ isColumn.named]

/-- A token and the one `offset` rows further down. References move, all else stays. -/
inductive Shifts (offset : Int) : Token → Token → Prop where
  | reference {t m : Token} {r r' : Reference} (range : t.isRange) (range' : m.isRange)
      (read : Reference.read t.text = .ok r) (moves : Moves offset r r')
      (written : m = operand r'.toText) : Shifts offset t m
  | other {t : Token} (fixed : ¬t.isRange) : Shifts offset t t

/-- An operand that refers to cells is what its text is classified as. -/
def Classified (t : Token) : Prop := t.isRange → t = operand t.text

theorem shiftToken_eq_ok (classified : t.Classified) :
    Formula.shiftToken offset t = .ok m ↔ Shifts offset t m := by
  unfold Formula.shiftToken
  split
  next range =>
    constructor
    · intro h
      obtain ⟨r, read, h⟩ := Except.bind_eq_ok.1 h
      obtain ⟨r', moved, h⟩ := Except.bind_eq_ok.1 h
      cases h
      have moves := Reference.shift_eq_ok_iff.1 moved
      have range' := isRange_of_moves (classified range ▸ range) read moves
      exact .reference range range' read moves rfl
    · rintro (⟨-, -, read, moves, rfl⟩ | fixed)
      · refine Except.bind_eq_ok.2 ⟨_, read, Except.bind_eq_ok.2 ⟨_, ?_, rfl⟩⟩
        exact Reference.shift_eq_ok_iff.2 moves
      · exact absurd range fixed
  next fixed =>
    constructor
    · rintro ⟨⟩
      exact .other fixed
    · rintro (⟨range, -⟩ | -)
      · exact absurd range fixed
      · rfl

namespace Shifts

/-- The text of a moved reference is read as the reference. -/
theorem read_text (read : Reference.read t.text = .ok r) (moves : Moves offset r r')
    (written : m = operand r'.toText) : Reference.read m.text = .ok r' := by
  rw [written, text_operand]
  exact ((Reference.valid_of_read read).of_moves moves).read_toText

theorem classified (h : Shifts offset t m) (classified : t.Classified) : m.Classified := by
  cases h with
  | reference _ _ _ _ written => exact fun _ => by rw [written, text_operand]
  | other => exact classified

/-- Moving twice is moving by both distances. -/
theorem trans (h : Shifts a t m) (h' : Shifts b m k) : Shifts (a + b) t k := by
  cases h with
  | @reference _ r r' range range' read moves written =>
    cases h' with
    | @reference _ s s' _ range'' read' moves' written' =>
      obtain rfl : r' = s := Except.ok.inj ((read_text read moves written).symm.trans read')
      exact .reference range range'' read (moves.trans moves') written'
    | other fixed => exact absurd range' fixed
  | other fixed =>
    cases h' with
    | reference range => exact absurd range fixed
    | other => exact .other fixed

/-- Moving back. -/
theorem back (h : Shifts a t m) (classified : t.Classified) :
    ∃ z, Shifts (-a) m z ∧ (z = t ↔ (t.isRange → Reference.withoutZeros t.text = t.text)) := by
  cases h with
  | @reference _ r r' range range' read moves written =>
    have valid := Reference.valid_of_read read
    have moves' := moves.symm valid
    have text : (operand r.toText).text = Reference.withoutZeros t.text := by
      rw [text_operand, Reference.toText_of_read read]
    have read' := read_text read moves written
    have range'' : (operand r.toText).isRange := by
      rw [written] at range' read'
      rw [text_operand] at read'
      exact isRange_of_moves range' read' moves'
    refine ⟨_, .reference range' range'' read' moves' rfl, ?_⟩
    constructor
    · intro same _
      rw [← text, same]
    · intro tidy
      rw [classified range, ← tidy range, ← text, text_operand]
  | other fixed => exact ⟨t, .other fixed, by simp [fixed]⟩

/-- What moving a token keeps. -/
theorem alike (h : Shifts a t m) : m.kind = t.kind ∧ m.role = t.role ∧ (¬t.isRange → m = t) ∧
    (t.isRange → ∃ r r', Reference.read t.text = .ok r ∧ Reference.read m.text = .ok r' ∧
      Moves a r r') := by
  cases h with
  | reference range range' read moves written =>
    have parts {t : Token} (h : t.isRange) : t.kind = .operand ∧ t.role = .range := by
      simpa [isRange] using h
    refine ⟨?_, ?_, fun fixed => absurd range fixed, fun _ => ?_⟩
    · rw [(parts range').1, (parts range).1]
    · rw [(parts range').2, (parts range).2]
    · exact ⟨_, _, read, read_text read moves written, moves⟩
  | other fixed => exact ⟨rfl, rfl, fun _ => rfl, fun range => absurd range fixed⟩

end Shifts

/-- A token cannot be moved if and only if it refers to cells without being a reference, or to a row
that would leave the sheet. -/
theorem exists_shiftToken_eq_error (classified : t.Classified) :
    (∃ e, Formula.shiftToken offset t = .error e) ↔ t.isRange ∧
      ((∃ e, Reference.read t.text = .error e) ∨
        ∃ r, Reference.read t.text = .ok r ∧ ∃ row ∈ r.rows, ¬Reference.Stays offset row) := by
  rw [Except.exists_eq_error]
  simp only [shiftToken_eq_ok classified]
  constructor
  · intro stuck
    have range : t.isRange := by
      by_contra fixed
      exact stuck ⟨t, .other fixed⟩
    refine ⟨range, ?_⟩
    cases read : Reference.read t.text with
    | error e => exact .inl ⟨e, rfl⟩
    | ok r =>
      refine .inr ⟨r, rfl, ?_⟩
      by_contra leaves
      obtain ⟨r', moves⟩ := Reference.exists_moves.2 (by simpa using leaves)
      exact stuck ⟨_, .reference range (isRange_of_moves (classified range ▸ range) read moves)
        read moves rfl⟩
  · rintro ⟨range, fails⟩ ⟨m, moved⟩
    obtain ⟨-, -, -, reference⟩ := moved.alike
    obtain ⟨r, r', read, -, moves⟩ := reference range
    obtain ⟨e, unread⟩ | ⟨s, read', row, mem, leaves⟩ := fails
    · rw [read] at unread
      cases unread
    · obtain rfl : r = s := Except.ok.inj (read.symm.trans read')
      exact leaves (Reference.exists_moves.1 ⟨r', moves⟩ row mem)

end Token

/-! ## Formulas -/

namespace Formula

variable {s s' : Surroundings} {ls : List Lexeme} {ts ms ks : List Token} {marker : Char}
  {text : Text} {a b offset : Int}

theorem Reads.classified (h : Reads s ls ts s') (separated : Lexeme.Separated ls) :
    ∀ t ∈ ts, t.Classified := by
  induction h with
  | nil => simp
  | cons first _ ih =>
    obtain ⟨complete, separated⟩ := separated
    refine List.forall_mem_cons.2 ⟨fun range => ?_, ih separated⟩
    obtain ⟨w, -, rfl, -⟩ := eq_word_of_isRange first complete range
    rw [Token.text_operand]

theorem classified_of_scan (h : scan marker text = .ok ts) : ∀ t ∈ ts, t.Classified := by
  by_cases formula : text.head? = some marker
  · obtain ⟨body, rfl⟩ := List.head?_eq_some_iff.1 formula
    obtain ⟨s, read, -⟩ := (scan_formula marker body).1 h
    exact read.classified (Lexeme.ofText_eq_iff.1 rfl).2
  · rw [scan_literal formula] at h
    cases h
    refine List.forall_mem_singleton.2 fun range => ?_
    unfold Token.ofLiteral at range
    split at range <;> cases range

theorem shift_eq_ok (classified : ∀ t ∈ ts, t.Classified) :
    shift offset ts = .ok ms ↔ List.Forall₂ (Token.Shifts offset) ts ms := by
  rw [shift, Except.mapM_eq_ok]
  induction ts generalizing ms with
  | nil => rw [List.forall₂_nil_left_iff, List.forall₂_nil_left_iff]
  | cons t ts ih =>
    obtain ⟨first, classified⟩ := List.forall_mem_cons.1 classified
    simp only [List.forall₂_cons_left_iff, Token.shiftToken_eq_ok first, ih classified]

theorem shifts_classified (classified : ∀ t ∈ ts, t.Classified)
    (h : List.Forall₂ (Token.Shifts offset) ts ms) : ∀ m ∈ ms, m.Classified := by
  induction h with
  | nil => exact classified
  | cons first _ ih =>
    obtain ⟨isClassified, classified⟩ := List.forall_mem_cons.1 classified
    exact List.forall_mem_cons.2 ⟨first.classified isClassified, ih classified⟩

theorem shifts_trans (h : List.Forall₂ (Token.Shifts a) ts ms)
    (h' : List.Forall₂ (Token.Shifts b) ms ks) : List.Forall₂ (Token.Shifts (a + b)) ts ks := by
  induction h generalizing ks with
  | nil =>
    cases h'
    exact .nil
  | cons first _ ih =>
    obtain ⟨k, ks, first', rest', rfl⟩ := List.forall₂_cons_left_iff.1 h'
    exact .cons (first.trans first') (ih rest')

theorem shifts_back (h : List.Forall₂ (Token.Shifts a) ts ms)
    (classified : ∀ t ∈ ts, t.Classified) : ∃ zs, List.Forall₂ (Token.Shifts (-a)) ms zs ∧
      (zs = ts ↔ ∀ t ∈ ts, t.isRange → Reference.withoutZeros t.text = t.text) := by
  induction h with
  | nil => exact ⟨[], .nil, by simp⟩
  | cons first _ ih =>
    obtain ⟨isClassified, classified⟩ := List.forall_mem_cons.1 classified
    obtain ⟨z, back, restored⟩ := first.back isClassified
    obtain ⟨zs, others, same⟩ := ih classified
    refine ⟨z :: zs, .cons back others, ?_⟩
    rw [List.cons.injEq, restored, same, List.forall_mem_cons]

/-- The tokens of a formula some rows further down. Moving them twice is moving them by both
distances, and moving them back leads to what moving by nothing does: the same tokens, unless a row
is written with zeros in front. Each token stays what it is, and only references move. Moving fails
exactly if an operand that refers to cells is no reference, or a row would leave the sheet. -/
theorem shift_action (scanned : scan marker text = .ok ts) :
    (∀ a b ms ks, shift a ts = .ok ms → shift b ms = .ok ks → shift (a + b) ts = .ok ks) ∧
    (∀ a ms, shift a ts = .ok ms → ∃ zs, shift (-a) ms = .ok zs ∧ shift 0 ts = .ok zs ∧
      (zs = ts ↔ ∀ t ∈ ts, t.isRange → Reference.withoutZeros t.text = t.text)) ∧
    (∀ a ms, shift a ts = .ok ms → List.Forall₂ (fun t m => m.kind = t.kind ∧ m.role = t.role ∧
      (¬t.isRange → m = t) ∧ (t.isRange → ∃ r r', Reference.read t.text = .ok r ∧
        Reference.read m.text = .ok r' ∧ Reference.Moves a r r')) ts ms) ∧
    ∀ a, (∃ e, shift a ts = .error e) ↔ ∃ t ∈ ts, t.isRange ∧
      ((∃ e, Reference.read t.text = .error e) ∨
        ∃ r, Reference.read t.text = .ok r ∧ ∃ row ∈ r.rows, ¬Reference.Stays a row) := by
  have classified := classified_of_scan scanned
  refine ⟨fun a b ms ks first second => ?_, fun a ms h => ?_, fun a ms h => ?_, fun a => ?_⟩
  · rw [shift_eq_ok classified] at first ⊢
    rw [shift_eq_ok (shifts_classified classified first)] at second
    exact shifts_trans first second
  · rw [shift_eq_ok classified] at h
    obtain ⟨zs, back, restored⟩ := shifts_back h classified
    have shifted := (shift_eq_ok (shifts_classified classified h)).2 back
    refine ⟨zs, shifted, (shift_eq_ok classified).2 ?_, restored⟩
    rw [← Int.add_right_neg a]
    exact shifts_trans h back
  · rw [shift_eq_ok classified] at h
    exact h.imp fun _ _ => Token.Shifts.alike
  · rw [shift, Except.exists_mapM_eq_error]
    exact exists_congr fun t => and_congr_right fun mem =>
      Token.exists_shiftToken_eq_error (classified t mem)

/-- A span with an open end and zeros in front of its row, a cell, and a number with an exponent.
Seven rows further up the cell would leave the sheet. -/
theorem shift_action_span :
    let text : Text := "=SUM(a007:a)-Ü2*1e5"
    ∃ ts ms ks zs, scan '=' text = .ok ts ∧ shift 5 ts = .ok ms ∧ shift (-3) ms = .ok ks ∧
      shift (5 + -3) ts = .ok ks ∧ Token.render '=' ks = "=SUM(a9:a)-Ü4*1e5".toList ∧
      shift (-5) ms = .ok zs ∧ shift 0 ts = .ok zs ∧
      Token.render '=' zs = "=SUM(a7:a)-Ü2*1e5".toList ∧
      ∃ t ∈ ts, t.isRange ∧ ((∃ e, Reference.read t.text = .error e) ∨
        ∃ r, Reference.read t.text = .ok r ∧ ∃ row ∈ r.rows, ¬Reference.Stays (-7) row) := by
  intro text
  have moved : (scan '=' text >>= fun ts => shift 5 ts >>= fun ms =>
      (shift (-3) ms).map (Token.render '=')) = .ok "=SUM(a9:a)-Ü4*1e5".toList := by decide +kernel
  have restored : (scan '=' text >>= fun ts => (shift 0 ts).map (Token.render '=')) =
      .ok "=SUM(a7:a)-Ü2*1e5".toList := by decide +kernel
  have leaves : (scan '=' text >>= shift (-7)).isOk = false := by decide +kernel
  clear_value text
  obtain ⟨ts, scanned, moved⟩ := Except.bind_eq_ok.1 moved
  obtain ⟨ms, first, moved⟩ := Except.bind_eq_ok.1 moved
  obtain ⟨ks, second, below⟩ := Except.map_eq_ok.1 moved
  rw [scanned, Except.ok_bind] at restored leaves
  obtain ⟨composes, restores, -, fails⟩ := shift_action scanned
  obtain ⟨zs, back, same, -⟩ := restores 5 ms first
  rw [same, Except.map_eq_ok] at restored
  obtain ⟨_, ⟨⟩, tidy⟩ := restored
  refine ⟨ts, ms, ks, zs, scanned, first, second, composes _ _ _ _ first second, below, back, same,
    tidy, (fails (-7)).1 (Except.exists_eq_error.2 ?_)⟩
  rintro ⟨ms, h⟩
  rw [h] at leaves
  cases leaves

end Formula

end JoinSheet
