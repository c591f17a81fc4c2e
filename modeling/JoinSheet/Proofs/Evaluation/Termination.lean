import JoinSheet.Proofs.Database.Always
import JoinSheet.Proofs.Evaluation.Places

/-!
# Evaluation ends

Every step of a reduction ends it or leaves fewer tokens, and evaluates only parts that have fewer
tokens than the step itself. That holds of all tokens, also of those that no formula consists of. So
as many steps as there are tokens are enough, evaluations are nested no deeper than that, and no step
reads or counts beyond the tokens.

## Main definitions

* `Step.Progresses` — a step that ends the reduction or leaves fewer tokens.
* `evalBelow` — an evaluation of short token sequences, with any other one for the rest.
* `Scope.stepsWithin` — a bounded number of steps.
* `Scope.evaluateWithin` — evaluations nested to a bounded depth, each with bounded steps.

## Main statements

* `Scope.step_congr` — which parts a step evaluates.
* `Scope.stepsWithin_eq` — how many steps a reduction takes.
* `Scope.evaluateWithin_eq` — how deep evaluations are nested.
* `Scope.reduce_progress` — every step makes progress, and every evaluation ends.
-/

namespace JoinSheet

open JoinSheet.Action

/-- The step ends the reduction, or leaves fewer than `n` tokens. -/
def Step.Progresses (n : Nat) : Step → Prop
  | done _ => True
  | reduced next => next.length < n
  | outOfRange => False

/-- The evaluation `eval` of fewer than `n` tokens, and the evaluation `other` of more. -/
def evalBelow (n : Nat) (eval other : List Token → Action Token) (tokens : List Token) :
    Action Token :=
  if tokens.length < n then eval tokens else other tokens

namespace Scope

variable {scope : Scope} {eval eval' : List Token → Action Token} {tokens : List Token}

/-! ## One step -/

theorem yields_step (scope : Scope) (eval : List Token → Action Token) (tokens : List Token) :
    (scope.step eval tokens).Yields (Step.Progresses tokens.length) := by
  unfold step
  split
  · exact yields_throw _
  · exact yields_bind fun _ => yields_pure trivial
  next first second rest =>
    refine yields_ite (fun _ => ?_) fun _ => ?_
    · exact yields_bind fun _ => yields_bind fun _ => yields_pure trivial
    · rw [ruleStep_eq]
      exact yields_bind fun next => yields_pure next.2

/-- A step evaluates only parts that have fewer tokens than the step itself. -/
theorem step_congr (same : ∀ part, part.length < tokens.length → eval part = eval' part) :
    scope.step eval tokens = scope.step eval' tokens := by
  unfold step
  split
  · rfl
  · rfl
  next first second rest =>
    have parts : (fun part : Part (first :: second :: rest).length => eval part.1) =
        fun part => eval' part.1 := funext fun part => same part.1 part.2
    rw [same (second :: rest) (Nat.lt_succ_self _), ruleStep_eq, ruleStep_eq, parts]

theorem step_evalBelow (scope : Scope) (eval other : List Token → Action Token)
    (tokens : List Token) :
    scope.step (evalBelow tokens.length eval other) tokens = scope.step eval tokens :=
  step_congr fun _ shorter => if_pos shorter

/-! ## All steps -/

/-- The value that at most `budget` steps lead to, or nothing if more are needed or one of them is
out of range. -/
def stepsWithin (scope : Scope) (eval : List Token → Action Token) :
    (budget : Nat) → List Token → Action (Option Token)
  | 0, _ => return none
  | budget + 1, tokens => do
    match ← scope.step eval tokens with
    | .done value => return some value
    | .reduced next => stepsWithin scope eval budget next
    | .outOfRange => return none

/-- A reduction takes at most as many steps as there are tokens, and one for no tokens. -/
theorem stepsWithin_eq {budget : Nat} (enough : max 1 tokens.length ≤ budget)
    (same : ∀ part, part.length < tokens.length → eval part = scope.reduce part) :
    scope.stepsWithin eval budget tokens = some <$> scope.reduce tokens := by
  induction budget generalizing tokens with
  | zero => omega
  | succ budget ih =>
    rw [stepsWithin, step_congr same]
    match tokens with
    | [] => rfl
    | [only] =>
      have single : scope.reduce [only] = liftM (scope.operand only) := rfl
      rw [step, single]
      simp
    | first :: second :: rest =>
      by_cases sign : first.kind = .prefixOp
      · rw [step, if_pos sign, scope.reduce_of_sign sign]
        simp
      · rw [step, if_neg sign, ruleStep_eq, contracting, scope.reduce_of_contract sign (by simp)]
        simp only [bind_assoc, pure_bind, map_bind]
        refine congrArg _ (funext fun next => ih ?_ fun part shorter => ?_)
        · have fewer := next.2
          simp only [List.length_cons] at fewer enough
          omega
        · exact same part (Nat.lt_trans shorter next.2)

/-- Evaluations nested at most `depth` deep, each of them with at most as many steps as it has tokens.
Where that is not enough, `missed` is reported. -/
def evaluateWithin (scope : Scope) (missed : Error) : (depth : Nat) → List Token → Action Token
  | 0, _ => throw missed
  | depth + 1, tokens => do
    match ← scope.stepsWithin (evaluateWithin scope missed depth) (max 1 tokens.length) tokens with
    | some value => return value
    | none => throw missed

/-- Evaluations are nested no deeper than there are tokens. -/
theorem evaluateWithin_eq (missed : Error) {depth : Nat} (deep : tokens.length < depth) :
    scope.evaluateWithin missed depth tokens = scope.reduce tokens := by
  induction depth generalizing tokens with
  | zero => omega
  | succ depth ih =>
    have nested : ∀ part, part.length < tokens.length →
        scope.evaluateWithin missed depth part = scope.reduce part := fun _ shorter => ih (by omega)
    have steps := stepsWithin_eq (Nat.le_refl (max 1 tokens.length)) nested
    rw [evaluateWithin, steps]
    simp

/-- Whatever the tokens, the sheet and the connection are: a step fails, ends the reduction or leaves
fewer tokens, and never leaves the range of its places and counters. It evaluates only parts that
have fewer tokens than the step itself, so any other evaluation of the rest makes no difference. A
reduction takes no more steps than there are tokens, or one if there are none, and with that many
steps for each of them, evaluations that are nested no deeper than there are tokens all end. -/
theorem reduce_progress (scope : Scope) (tokens : List Token) :
    (∀ eval, (scope.step eval tokens).Yields (Step.Progresses tokens.length)) ∧
    (∀ eval other,
      scope.step (evalBelow tokens.length eval other) tokens = scope.step eval tokens) ∧
    (∀ other, scope.stepsWithin (evalBelow tokens.length scope.reduce other)
      (max 1 tokens.length) tokens = some <$> scope.reduce tokens) ∧
    ∀ missed, scope.evaluateWithin missed (tokens.length + 1) tokens = scope.reduce tokens :=
  ⟨fun eval => scope.yields_step eval tokens, fun eval other => scope.step_evalBelow eval other tokens,
    fun _ => stepsWithin_eq (Nat.le_refl _) fun _ shorter => if_pos shorter,
    fun missed => evaluateWithin_eq missed (Nat.lt_succ_self _)⟩

end Scope

end JoinSheet
