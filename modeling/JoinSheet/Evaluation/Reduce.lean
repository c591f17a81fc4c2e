import JoinSheet.Evaluation.Call

/-!
# Reduction

A formula is evaluated by reducing its tokens. A sign at the start applies to everything after it. Of
two or more tokens otherwise the first rule that applies contracts them to fewer: a sign before
a value, the first group, the first call, the first product or quotient, the first sum or difference.
A single token is the result.

## Main definitions

* `Scope.contract` — one contraction; the result is shorter by its type.
* `Scope.reduce` — the value of an expression.
* `Scope.evaluate` — the value of a formula, blanks left out.
-/

namespace JoinSheet

namespace Scope

/-! ## What the rules look for -/

/-- A sign before a value. -/
def signsValue (t : Token) (after : List Token) : Bool :=
  t.kind = .prefixOp && after.head?.any Token.isValue

/-- The parenthesis that opens a group. -/
def opensGroup (t : Token) (_ : List Token) : Bool := t.kind = .paren && t.isOpening

/-- The parenthesis that opens a call. -/
def opensCall (t : Token) (_ : List Token) : Bool := t.functionName?.isSome

/-- An operator, either among products and quotients or among sums and differences. -/
def operates (factors : Bool) (t : Token) (_ : List Token) : Bool :=
  (Arithmetic.ofToken? t).any (·.isFactor == factors)

/-! ## The rules -/

/-- A rule applied to tokens: nothing where it does not apply, and otherwise fewer tokens. -/
abbrev Contraction (tokens : List Token) := Option (Action (Part tokens.length))

/-- A sign with the value after it. -/
def signRule (scope : Scope) (tokens : List Token) : Contraction tokens :=
  match h : Cut.first? signsValue tokens with
  | some ⟨before, sign, value :: after⟩ => some do
    let value ← scope.operand value
    let signed ← applySign sign value
    return ⟨before ++ signed :: after, by
      rw [← Cut.whole_of_first? h]; simp [Cut.whole]⟩
  | _ => none

/-- The group or call that a cut opens, with its inside evaluated by `f`. -/
def contractGroup {tokens : List Token} (cut : Cut) (h : cut.whole = tokens)
    (f : Part tokens.length → Action Token) : Action (Part tokens.length) :=
  match hc : Cut.closing? 0 cut.after with
  | none => throw (.parse (.unmatchedGroup cut.token.text))
  | some ⟨inside, close, after⟩ => do
    have total : tokens.length = cut.before.length + (inside.length + after.length + 1) + 1 := by
      rw [← h, Cut.length_whole, ← Cut.whole_of_closing? hc, Cut.length_whole]
    let value ← f ⟨inside, by omega⟩
    return ⟨cut.before ++ value :: after, by simp only [List.length_append, List.length_cons]; omega⟩

/-- The first group. -/
def groupRule (tokens : List Token) (eval : Evaluator tokens.length) : Contraction tokens :=
  match h : Cut.first? opensGroup tokens with
  | none => none
  | some cut => some (contractGroup cut (Cut.whole_of_first? h) eval)

/-- The arguments between the parentheses of a call. -/
def argumentParts {n : Nat} (inside : Part n) : List (Part n) :=
  (splitArguments inside.1).attach.map fun ⟨tokens, h⟩ =>
    ⟨tokens, Nat.lt_of_le_of_lt (length_le_of_mem_splitArguments h) inside.2⟩

/-- The first call. -/
def callRule (scope : Scope) (tokens : List Token) (eval : Evaluator tokens.length) :
    Contraction tokens :=
  match h : Cut.first? opensCall tokens with
  | none => none
  | some cut =>
    let name := (cut.token.functionName?.getD []).upper
    some <| contractGroup cut (Cut.whole_of_first? h) fun inside =>
      scope.call name ((argumentParts inside).map (Argument.ofPart eval))

/-- The first operator, either among products and quotients or among sums and differences, with the
values beside it. -/
def operatorRule (scope : Scope) (factors : Bool) (tokens : List Token) : Contraction tokens :=
  match h : Cut.first? (operates factors) tokens with
  | none => none
  | some ⟨before, operator, after⟩ =>
    have total : tokens.length = before.length + after.length + 1 := by
      rw [← Cut.whole_of_first? h, Cut.length_whole]
    match before.getLast?, after with
    | some left, right :: after => some do
      let some op := Arithmetic.ofToken? operator | throw (.eval (.missingOperand operator.text))
      let value ← scope.combine op left right
      return ⟨before.dropLast ++ value :: after, by
        simp only [List.length_append, List.length_dropLast, List.length_cons] at total ⊢
        omega⟩
    | _, _ => some (throw (.eval (.missingOperand operator.text)))

/-- The first rule that applies, applied. -/
def contract (scope : Scope) (tokens : List Token) (eval : Evaluator tokens.length) :
    Action (Part tokens.length) :=
  (scope.signRule tokens <|> groupRule tokens eval <|> scope.callRule tokens eval <|>
    scope.operatorRule true tokens <|> scope.operatorRule false tokens).getD
      (throw (.eval (.malformed (Token.spell tokens))))

/-- The value of an expression of at most `n` tokens. -/
def reduceWithin (scope : Scope) : (n : Nat) → (tokens : List Token) → tokens.length ≤ n → Action Token
  | _, [], _ => throw (.eval .emptyExpression)
  | _, [only], _ => liftM (scope.operand only)
  | n + 1, first :: second :: rest, h => do
    if first.kind = .prefixOp then
      let value ← reduceWithin scope n (second :: rest) (by simp only [List.length_cons] at h ⊢; omega)
      liftM (applySign first value)
    else
      let next ← scope.contract (first :: second :: rest) fun part =>
        reduceWithin scope n part.1 (by have := part.2; omega)
      reduceWithin scope n next.1 (by have := next.2; omega)

/-- The value of an expression. -/
def reduce (scope : Scope) (tokens : List Token) : Action Token :=
  scope.reduceWithin tokens.length tokens (Nat.le_refl _)

/-- The value of a formula by its tokens. Blanks mean nothing. -/
def evaluate (scope : Scope) (tokens : List Token) : Action Token :=
  scope.reduce (tokens.filter fun t => t.kind ≠ .blank)

end Scope

end JoinSheet
