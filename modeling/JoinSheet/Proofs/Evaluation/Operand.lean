import JoinSheet.Evaluation.Operand
import JoinSheet.Proofs.Success

/-!
# Operands and results

Which tokens may stand as an operand, and which of them are values by themselves. The result of
every evaluation is of the second kind, so that it can take the place of what was evaluated.

## Main definitions

* `Token.IsOperand` — the tokens that may stand as an operand.
* `Token.IsResult` — the operands that are values by themselves.
* `Arithmetic.combine` — an operator on two values.
-/

namespace JoinSheet

namespace Token

/-- Tokens that may be the operand of an expression: values, as opposed to signs, operators and
parentheses. -/
def IsOperand (t : Token) : Prop := t.isValue ∧ ¬ t.isOpening ∧ ¬ t.isClosing

/-- Operands that are values by themselves: they refer to no cell. -/
def IsResult (t : Token) : Prop := t.IsOperand ∧ ¬ t.isRange

theorem isResult_ofNumber (x : Float) : (ofNumber x).IsResult := by
  simp [IsResult, IsOperand, ofNumber, isValue, isOpening, isClosing, isRange]

theorem isResult_ofLogical (b : Bool) : (ofLogical b).IsResult := by
  simp [IsResult, IsOperand, ofLogical, isValue, isOpening, isClosing, isRange]

theorem isResult_ofCell (c : Cell) : (ofCell c).IsResult := by
  unfold ofCell
  split
  · simp [IsResult, IsOperand, absent, isValue, isOpening, isClosing, isRange]
  · split
    · simp [IsResult, IsOperand, isValue, isOpening, isClosing, isRange]
    · split
      · simp [IsResult, IsOperand, isValue, isOpening, isClosing, isRange]
      · simp [IsResult, IsOperand, ofText, isValue, isOpening, isClosing, isRange]

end Token

/-- The result of an operator on two values. -/
def Arithmetic.combine (op : Arithmetic) (x y : Token) : Except Error Token := do
  let x ← numeric op.toText x
  let y ← numeric op.toText y
  return Token.ofNumber (← op.apply x y)

variable {scope : Scope} {t v w : Token}

/-- A value by itself has itself for its value. -/
theorem operand_of_isResult (h : t.IsResult) : scope.operand t = .ok t := by
  obtain ⟨⟨isValue, -, -⟩, notRange⟩ := h
  simp [Scope.operand, isValue, notRange]

theorem isResult_of_operand (ht : t.IsOperand) (h : scope.operand t = .ok v) : v.IsResult := by
  by_cases range : t.isRange
  · simp only [Scope.operand, ht.1, range, Bool.not_true, Bool.false_eq_true, if_false] at h
    obtain ⟨reference, -, h⟩ := Except.bind_eq_ok.1 h
    cases reference with
    | cell column row =>
      obtain ⟨cell, -, h⟩ := Except.bind_eq_ok.1 h
      cases h
      exact Token.isResult_ofCell cell
    | span column first last => cases h
  · have same : t.IsResult := ⟨ht, range⟩
    rw [operand_of_isResult same] at h
    cases h
    exact same

theorem isResult_of_applySign {sign : Token} (hv : v.IsResult) (h : applySign sign v = .ok w) :
    w.IsResult := by
  unfold applySign at h
  split at h
  · cases h
    exact hv
  · split at h
    · obtain ⟨x, -, rfl⟩ := Except.map_eq_ok.1 h
      exact Token.isResult_ofNumber (-x)
    · cases h

theorem isResult_of_combine {op : Arithmetic} (h : op.combine v w = .ok t) : t.IsResult := by
  obtain ⟨x, -, h⟩ := Except.bind_eq_ok.1 h
  obtain ⟨y, -, h⟩ := Except.bind_eq_ok.1 h
  obtain ⟨z, -, h⟩ := Except.bind_eq_ok.1 h
  cases h
  exact Token.isResult_ofNumber z

/-- An operator on two tokens is one on their values. -/
theorem toOption_combine (op : Arithmetic) (left right : Token) :
    (scope.combine op left right).toOption =
      (scope.operand left).toOption.bind fun x =>
        (scope.operand right).toOption.bind fun y => (op.combine x y).toOption := by
  unfold Scope.combine Arithmetic.combine
  cases scope.operand left with
  | error e => rfl
  | ok x =>
    cases scope.operand right with
    | error e => cases h : numeric op.toText x <;> simp [h, bind, Except.bind, Except.toOption]
    | ok y => rfl

end JoinSheet
