import JoinSheet.Proofs.Evaluation.Arguments
import JoinSheet.Proofs.Evaluation.Preservation
import JoinSheet.Proofs.Formula.Reading

/-!
# Well-formed tokens

The tokens of a formula keep their parts in step: what is called absent or logical looks like it,
and a value or a blank is no parenthesis. Every rule of the reduction leaves tokens that are
well-formed too, so the value of an expression is well-formed, whatever the database answers, and it
is a value by itself.

## Main definitions

* `TokenRole.isBare` — roles that promise nothing of the other parts.
* `Token.WellFormed` — tokens whose parts are in step.
* `Token.IsOutcome` — well-formed tokens that are values by themselves.

## Main statements

* `Token.wellFormed_of_scan` — the tokens of a formula are well-formed.
* `Scope.yields_reduce` — an expression is evaluated to a well-formed value by itself.
-/

namespace JoinSheet

/-- Roles that promise nothing of the other parts of a token. -/
def TokenRole.isBare : TokenRole → Bool
  | .empty | .logical | .opening | .closing => false
  | .plain | .text | .number | .range | .argument => true

namespace Token

/-- The parts of the token are in step. -/
structure WellFormed (t : Token) : Prop where
  /-- Only the absent value is called so. -/
  absent : t.role = .empty → t = .absent
  /-- A truth value is spelled as one. -/
  logical : t.role = .logical → t.kind = .infixOp ∨ isLogicalText t.text ∧ t.number = none
  /-- Neither a value nor a blank is a parenthesis. -/
  plain : t.isValue ∨ t.kind = .blank → ¬t.isOpening ∧ ¬t.isClosing

/-- The token is well-formed and a value by itself. -/
def IsOutcome (t : Token) : Prop := t.WellFormed ∧ t.IsResult

variable {t : Token}

theorem WellFormed.isOperand (h : t.WellFormed) (isValue : t.isValue) : t.IsOperand :=
  ⟨isValue, h.plain (.inl isValue)⟩

theorem WellFormed.not_bracket_of_blank (h : t.WellFormed) :
    t.kind = .blank → ¬t.isOpening ∧ ¬t.isClosing := fun blank => h.plain (.inr blank)

/-! ## Roles -/

theorem wellFormed_of_isBare (h : t.role.isBare) : t.WellFormed := by
  have other {r : TokenRole} (bound : r.isBare = false) : t.role ≠ r := by
    intro same
    rw [same, bound] at h
    cases h
  have notOpening : t.role ≠ .opening := other rfl
  have notClosing : t.role ≠ .closing := other rfl
  exact ⟨fun absent => absurd absent (other rfl), fun logical => absurd logical (other rfl),
    fun _ => by simp [isOpening, isClosing, notOpening, notClosing]⟩

/-- Parentheses are of a kind that is neither a value nor a blank. -/
theorem wellFormed_of_bracket (role : t.role = .opening ∨ t.role = .closing)
    (kind : t.kind = .call ∨ t.kind = .paren) : t.WellFormed := by
  refine ⟨fun absent => ?_, fun logical => ?_, fun value => ?_⟩
  · rw [absent] at role
    simp at role
  · rw [logical] at role
    simp at role
  · obtain call | paren := kind
    · simp [isValue, call] at value
    · simp [isValue, paren] at value

theorem wellFormed_of_isLogicalText {text : Text} (h : isLogicalText text) :
    WellFormed ⟨.operand, .logical, text, none⟩ where
  absent role := by cases role
  logical _ := .inr ⟨h, rfl⟩
  plain _ := by simp [isOpening, isClosing]

/-- A comparison is logical without denoting a truth value. -/
theorem wellFormed_comparison (text : Text) : WellFormed ⟨.infixOp, .logical, text, none⟩ where
  absent role := by cases role
  logical _ := .inl rfl
  plain _ := by simp [isOpening, isClosing]

/-! ## Values -/

theorem wellFormed_operand (t : Text) : (operand t).WellFormed := by
  unfold operand
  split
  · exact wellFormed_of_isBare rfl
  · split
    next logical => exact wellFormed_of_isLogicalText logical
    · split <;> exact wellFormed_of_isBare rfl

theorem wellFormed_ofLiteral (t : Text) : (ofLiteral t).WellFormed := by
  unfold ofLiteral
  split <;> exact wellFormed_of_isBare rfl

theorem wellFormed_absent : absent.WellFormed where
  absent _ := rfl
  logical role := by cases role
  plain _ := by decide

theorem wellFormed_ofCell (c : Cell) : (ofCell c).WellFormed := by
  unfold ofCell
  split
  · exact wellFormed_absent
  · split
    · exact wellFormed_of_isBare rfl
    · split
      next logical => exact wellFormed_of_isLogicalText logical
      · exact wellFormed_of_isBare rfl

theorem isOutcome_ofNumber (x : Float) : (ofNumber x).IsOutcome :=
  ⟨wellFormed_of_isBare rfl, isResult_ofNumber x⟩

theorem isOutcome_ofLogical (b : Bool) : (ofLogical b).IsOutcome := by
  have spelled : isLogicalText (if b then "true" else "false") := by cases b <;> decide
  exact ⟨wellFormed_of_isLogicalText spelled, isResult_ofLogical b⟩

theorem isOutcome_ofCell (c : Cell) : (ofCell c).IsOutcome :=
  ⟨wellFormed_ofCell c, isResult_ofCell c⟩

end Token

/-! ## Formulas -/

namespace Formula

variable {s s' : Surroundings}

theorem wellFormed_operatorToken (previous : Option Token) (t : Text) :
    (operatorToken previous t).WellFormed := by
  unfold operatorToken
  split
  · exact Token.wellFormed_of_isBare rfl
  · split
    · exact Token.wellFormed_of_isBare rfl
    · split
      · exact Token.wellFormed_of_isBare rfl
      · exact Token.wellFormed_comparison t

theorem wellFormed_tokenOf {l : Lexeme} {t : Token} (h : tokenOf s l = .ok (t, s')) :
    t.WellFormed := by
  cases l <;> simp only [tokenOf] at h
  case word | quoted =>
    cases h
    exact Token.wellFormed_operand _
  case blanks =>
    cases h
    exact Token.wellFormed_of_isBare rfl
  case operator =>
    cases h
    exact wellFormed_operatorToken _ _
  case opener name =>
    cases h
    refine Token.wellFormed_of_bracket (.inl rfl) ?_
    dsimp only
    split
    · exact .inl rfl
    · exact .inr rfl
  case closer =>
    split at h <;> cases h
    next isCall _ _ =>
      exact Token.wellFormed_of_bracket (.inr rfl) (by cases isCall <;> simp)
  case comma =>
    cases h
    split <;> exact Token.wellFormed_of_isBare rfl
  case unsupported | unclosed => cases h

end Formula

/-- The tokens of a cell's text are well-formed. -/
theorem Token.wellFormed_of_scan {marker : Char} {text : Text} {ts : List Token}
    (h : Formula.scan marker text = .ok ts) : ∀ t ∈ ts, t.WellFormed := by
  intro t mem
  obtain rfl | ⟨_, _, _, read⟩ := Formula.mem_of_scan h mem
  · exact wellFormed_ofLiteral text
  · exact Formula.wellFormed_tokenOf read

/-! ## Reductions -/

open JoinSheet.Action

variable {scope : Scope}

/-- Evaluation keeps tokens well-formed, and what it finds is a value by itself. -/
theorem keeps_wellFormed : Keeps Token.WellFormed Token.IsOutcome where
  token hv := hv.1
  value ht isValue notRange := ⟨ht, ht.isOperand isValue, notRange⟩
  ofCell := Token.isOutcome_ofCell
  ofNumber := Token.isOutcome_ofNumber
  ofLogical := Token.isOutcome_ofLogical

namespace Scope

/-- Whatever the database answers, well-formed tokens are evaluated to a well-formed value. -/
theorem yields_reduce (scope : Scope) {tokens : List Token}
    (wellFormed : ∀ t ∈ tokens, t.WellFormed) : (scope.reduce tokens).Yields Token.IsOutcome :=
  keeps_wellFormed.yields_reduce scope wellFormed

/-- The value of an expression is its own value. -/
theorem reduce_bind_operand (scope : Scope) {tokens : List Token}
    (wellFormed : ∀ t ∈ tokens, t.WellFormed) :
    (do let v ← scope.reduce tokens; scope.operand v) = scope.reduce tokens := by
  have same : (scope.reduce tokens).Yields fun v => (liftM (scope.operand v) : Action Token) =
      pure v :=
    (scope.yields_reduce wellFormed).mono fun v hv => by rw [operand_of_isResult hv.2]; rfl
  rw [bind_congr_of_yields same, bind_pure]

theorem yields_evaluate (scope : Scope) {tokens : List Token}
    (wellFormed : ∀ t ∈ tokens, t.WellFormed) : (scope.evaluate tokens).Yields Token.IsOutcome :=
  scope.yields_reduce fun t mem => wellFormed t (List.mem_of_mem_filter mem)

end Scope

/-! ## Calls that stand alone -/

/-- Well-formed tokens that are one argument of a call. -/
structure IsBranch (tokens : List Token) : Prop where
  isArgument : IsArgument tokens
  wellFormed : ∀ t ∈ tokens, t.WellFormed

theorem IsBranch.filter {x : List Token} (h : IsBranch x) :
    IsBranch (x.filter Token.isPrinted) where
  isArgument := Balanced.filter h.isArgument fun t mem => (h.wellFormed t mem).not_bracket_of_blank
  wellFormed t mem := h.wellFormed t (List.mem_of_mem_filter mem)

/-- A call has the value that its function has for its arguments, blanks left out. -/
theorem Scope.evaluate_callOf {arguments : List (List Token)} (h : ∀ a ∈ arguments, IsBranch a)
    (written : [Token.comma].intercalate (arguments.map (List.filter Token.isPrinted)) ≠ [])
    (name : Text) : scope.evaluate (Token.callOf name arguments) = (do
      let v ← scope.call name.upper
        (arguments.map fun a => scope.argument (a.filter Token.isPrinted))
      scope.operand v) := by
  have parts : ∀ a ∈ arguments.map (List.filter Token.isPrinted), IsArgument a :=
    List.forall_mem_map.2 fun a mem => (h a mem).filter.isArgument
  have whole : scope.evaluate (Token.callOf name arguments) =
      scope.reduce ((Token.callOf name arguments).filter Token.isPrinted) := rfl
  rw [whole, Token.filter_callOf, reduce_callOf parts written, List.map_map]
  rfl

end JoinSheet
