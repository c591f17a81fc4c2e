import JoinSheet.Proofs.Evaluation.SetFunction
import JoinSheet.Proofs.Evaluation.WellFormed
import JoinSheet.Proofs.Number.RoundTrip

/-!
# Numbers in cells

A number that a formula evaluates to is what the text of its cell is read as again, also by formulas
that refer to the cell, as long as it is finite. Sums, products and folds may also come to
infinities, and to what is no number. These are written as words, and a formula that refers to such
a cell reads a text.

## Main definitions

* `Token.IsLegible` — the number of a token is what its text is read as, or what the text is written
  of.
* `Number.IsReadAs` — a text that shows a number.

## Main statements

* `Token.isLegible_of_scan` — the tokens of a formula are legible.
* `keeps_isLegible` — so are all values that an evaluation finds.
* `Sheet.number_of_evaluated` — which numbers are read from their cells.
-/

namespace JoinSheet

/-- The text is read as the number, up to the sign of a zero, also where a cell shows it. -/
def Number.IsReadAs (text : Text) (x : Float) : Prop :=
  ∃ y, Number.read? text = some y ∧ (Token.ofCell (some text)).number = some y ∧
    (y = x ∨ y == 0.0 ∧ x == 0.0)

namespace Token

variable {t : Token} {x : Float}

/-- The number of the token is what its text is read as, or the text is written of the number. -/
def IsLegible (t : Token) : Prop :=
  ∀ x, t.number = some x → t.role = .number ∧
    (Number.read? t.text = some x ∨ t.text = Number.write x)

theorem isLegible_of_number_eq_none (h : t.number = none) : t.IsLegible := by
  intro x number
  rw [h] at number
  cases number

/-! ## Values -/

theorem isLegible_ofNumber (x : Float) : (ofNumber x).IsLegible := by
  rintro _ ⟨⟩
  exact ⟨rfl, .inr rfl⟩

theorem isLegible_ofLogical (b : Bool) : (ofLogical b).IsLegible :=
  isLegible_of_number_eq_none rfl

theorem isLegible_ofCell (c : Cell) : (ofCell c).IsLegible := by
  unfold ofCell
  split
  · exact isLegible_of_number_eq_none rfl
  next text =>
    split
    next read =>
      rintro _ ⟨⟩
      exact ⟨rfl, .inl read⟩
    · split <;> exact isLegible_of_number_eq_none rfl

theorem isLegible_operand (text : Text) : (operand text).IsLegible := by
  unfold operand
  split
  · exact isLegible_of_number_eq_none rfl
  · split
    · exact isLegible_of_number_eq_none rfl
    · split
      next read =>
        rintro _ ⟨⟩
        exact ⟨rfl, .inl read⟩
      · exact isLegible_of_number_eq_none rfl

theorem isLegible_ofLiteral (text : Text) : (ofLiteral text).IsLegible := by
  unfold ofLiteral
  split
  next read =>
    rintro _ ⟨⟩
    exact ⟨rfl, .inl read⟩
  · exact isLegible_of_number_eq_none rfl

end Token

/-! ## Formulas -/

/-- Only operands have numbers. -/
theorem Formula.isLegible_tokenOf {s s' : Surroundings} {l : Lexeme} {t : Token}
    (h : tokenOf s l = .ok (t, s')) : t.IsLegible := by
  cases l <;> simp only [tokenOf] at h
  case word | quoted =>
    cases h
    exact Token.isLegible_operand _
  case operator =>
    cases h
    refine Token.isLegible_of_number_eq_none ?_
    unfold operatorToken
    repeat' split
    all_goals rfl
  case closer =>
    split at h <;> cases h
    exact Token.isLegible_of_number_eq_none rfl
  case comma =>
    cases h
    split <;> exact Token.isLegible_of_number_eq_none rfl
  all_goals
    cases h
  all_goals exact Token.isLegible_of_number_eq_none rfl

/-- The tokens of a cell's text are legible. -/
theorem Token.isLegible_of_scan {marker : Char} {text : Text} {ts : List Token}
    (h : Formula.scan marker text = .ok ts) : ∀ t ∈ ts, t.IsLegible := by
  intro t mem
  obtain rfl | ⟨_, _, _, read⟩ := Formula.mem_of_scan h mem
  · exact isLegible_ofLiteral text
  · exact Formula.isLegible_tokenOf read

/-- Evaluation keeps tokens legible. -/
theorem keeps_isLegible : Keeps Token.IsLegible Token.IsLegible where
  token := id
  value h _ _ := h
  ofCell := Token.isLegible_ofCell
  ofNumber := Token.isLegible_ofNumber
  ofLogical := Token.isLegible_ofLogical

/-! ## Cells -/

namespace Number

theorem read?_nil : read? [] = none := rfl

theorem write_ne_nil (x : Float) : write x ≠ [] := by
  intro empty
  cases finite : x.isFinite with
  | true =>
    obtain ⟨_, read, -⟩ := read?_write finite
    rw [empty, read?_nil] at read
    cases read
  | false =>
    have words : [] ∉ ["NaN".toList, "inf".toList, "-inf".toList] := by decide
    exact words (empty ▸ write_of_not_isFinite finite)

theorem isReadAs_of_read? {text : Text} {x y : Float} (read : read? text = some y)
    (same : y = x ∨ y == 0.0 ∧ x == 0.0) : IsReadAs text x :=
  ⟨y, read, (number_ofCell text).trans read, same⟩

theorem isReadAs_write {x : Float} (finite : x.isFinite) : IsReadAs (write x) x := by
  obtain ⟨_, read, same⟩ := read?_write finite
  exact isReadAs_of_read? read same

end Number

namespace Token.IsLegible

variable {t : Token} {x : Float} (h : t.IsLegible) (number : t.number = some x)

include h number

theorem text_ne_nil : t.text ≠ [] := by
  intro empty
  obtain ⟨-, read | written⟩ := h x number
  · rw [empty, Number.read?_nil] at read
    cases read
  · exact Number.write_ne_nil x (written.symm.trans empty)

/-- A cell shows the text of a legible number. -/
theorem toCell_eq : t.toCell = some t.text := by
  obtain ⟨role, -⟩ := h x number
  have shown : ¬(t.role = .empty ∨ (t.kind = .literal ∧ t.text = [])) := by
    simp [role, h.text_ne_nil number]
  rw [toCell, if_neg shown, textValue, if_neg (by simp [role])]

theorem isReadAs : Number.IsReadAs t.text x ∨
    x.isFinite = false ∧ t.text = Number.write x ∧ Number.read? t.text = none := by
  obtain ⟨-, read | written⟩ := h x number
  · exact .inl (Number.isReadAs_of_read? read (.inl rfl))
  · rw [written]
    cases finite : x.isFinite with
    | true => exact .inl (Number.isReadAs_write finite)
    | false => exact .inr ⟨rfl, rfl, Number.read?_write_of_not_isFinite finite⟩

end Token.IsLegible

namespace Sheet

variable {σ : Type} {server : Server σ} {d : σ} {s : Sheet} {connection : Option Dialect}
  {formula : Text} {tokens : List Token} {v : Token} {x : Float}

/-- The cell of a formula shows what its tokens evaluate to. -/
theorem result_evaluate_of_scan (scanned : s.scan formula = .ok tokens)
    (evaluated : (Scope.evaluate ⟨s, connection⟩ tokens).result server d = .ok v) :
    (s.evaluate connection formula).result server d = .ok ⟨v.toCell, formula⟩ := by
  have whole : s.evaluate connection formula = Scope.evaluate ⟨s, connection⟩ tokens >>= fun v =>
      (liftM (Except.ok ⟨v.toCell, formula⟩ : Except Error FormulaCell) : Action FormulaCell) := by
    rw [evaluate, scanned]
    rfl
  rw [whole, Action.result_bind_liftM, evaluated]
  rfl

/-- A number that a formula evaluates to is read back from its cell, up to the sign of a zero,
unless a computation has come to an infinity or to what is no number. Then the cell shows a
text. -/
theorem number_of_evaluated (scanned : s.scan formula = .ok tokens)
    (evaluated : (Scope.evaluate ⟨s, connection⟩ tokens).result server d = .ok v)
    (number : v.number = some x) :
    ∃ text, (s.evaluate connection formula).result server d = .ok ⟨some text, formula⟩ ∧
      (Number.IsReadAs text x ∨
        x.isFinite = false ∧ text = Number.write x ∧ Number.read? text = none) := by
  have yields := keeps_isLegible.yields_evaluate ⟨s, connection⟩ (Token.isLegible_of_scan scanned)
  have legible : v.IsLegible := yields.run server d v evaluated
  exact ⟨v.text, legible.toCell_eq number ▸ result_evaluate_of_scan scanned evaluated,
    legible.isReadAs number⟩

/-- A quotient with a sign. -/
theorem number_of_evaluated_quotient :
    let s := Sheet.ofTable ⟨"s", "t"⟩ {}
    let server := Server.absent
    let tokens := [⟨.prefixOp, .plain, "-", none⟩, Token.operand "1",
      ⟨.infixOp, .plain, "/", none⟩, Token.operand "8"]
    s.scan "=-1/8" = .ok tokens ∧
      (Scope.evaluate ⟨s, none⟩ tokens).result server () = .ok (.ofNumber (-0.125)) ∧
      (s.evaluate none "=-1/8").result server () = .ok ⟨some "-0.125", "=-1/8"⟩ ∧
      Number.IsReadAs "-0.125" (-0.125) := by
  intro s server tokens
  have scanned : s.scan "=-1/8" = .ok tokens := by decide +kernel
  have evaluated : (Scope.evaluate ⟨s, none⟩ tokens).result server () =
      .ok (.ofNumber (-0.125)) := by decide +kernel
  have cell : (s.evaluate none "=-1/8").result server () = .ok ⟨some "-0.125", "=-1/8"⟩ :=
    (result_evaluate_of_scan scanned evaluated).trans (by decide +kernel)
  obtain ⟨text, shown, read⟩ := number_of_evaluated scanned evaluated rfl
  obtain rfl : "-0.125".toList = text := by simpa using cell.symm.trans shown
  exact ⟨scanned, evaluated, cell, read.resolve_right fun ⟨infinite, _⟩ =>
    absurd infinite (by decide +kernel)⟩

/-- A product beyond all doubles is written as a word, which is not read as a number. -/
theorem not_isReadAs_product :
    let s := Sheet.ofTable ⟨"s", "t"⟩ {}
    let server := Server.absent
    let tokens := [Token.operand "1E308", ⟨.infixOp, .plain, "*", none⟩, Token.operand "10"]
    s.scan "=1E308*10" = .ok tokens ∧
      (Scope.evaluate ⟨s, none⟩ tokens).result server () = .ok (.ofNumber (1.0 / 0.0)) ∧
      (s.evaluate none "=1E308*10").result server () = .ok ⟨some "inf", "=1E308*10"⟩ ∧
      ¬Number.IsReadAs "inf" (1.0 / 0.0) := by
  intro s server tokens
  have scanned : s.scan "=1E308*10" = .ok tokens := by decide +kernel
  have evaluated : (Scope.evaluate ⟨s, none⟩ tokens).result server () =
      .ok (.ofNumber (1.0 / 0.0)) := by decide +kernel
  refine ⟨scanned, evaluated, (result_evaluate_of_scan scanned evaluated).trans (by decide +kernel), ?_⟩
  rintro ⟨y, read, -⟩
  have none : Number.read? "inf" = none := by decide
  rw [none] at read
  cases read

end Sheet

end JoinSheet
