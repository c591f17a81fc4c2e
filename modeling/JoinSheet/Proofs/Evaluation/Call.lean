import JoinSheet.Evaluation.Call
import JoinSheet.Proofs.Database.Outcome
import JoinSheet.Proofs.Evaluation.Operand
import Mathlib.Data.List.Forall2

/-!
# What calls depend on

Functions see of an argument only what they may ask of it. Two lists of arguments that agree in the
outcomes of what can be asked lead to the same outcome of a call. A call yields a value that needs no
sheet to be understood if its arguments do.

## Main definitions

* `Argument.Agrees` — arguments that answer alike.
* `Scope.Queries` — the requests that an evaluation may make.
-/

namespace JoinSheet

open JoinSheet.Action

/-! ## Agreement of arguments -/

/-- Two arguments that answer alike to all that a function may ask of them. -/
structure Argument.Agrees (answers : Answers) (a b : Argument) : Prop where
  range : a.range? = b.range?
  value : outcome answers (a.value ()) = outcome answers (b.value ())
  holds : outcome answers (a.holds ()) = outcome answers (b.holds ())

section Agreement

variable {answers : Answers} {a b : Argument} {as bs : List Argument} (scope : Scope)

theorem outcome_scalar (h : a.Agrees answers b) (function : Text) :
    outcome answers (a.scalar function) = outcome answers (b.scalar function) :=
  outcome_bind_congr answers h.value fun _ => rfl

theorem outcome_contribution (h : a.Agrees answers b) (function : Text) :
    outcome answers (scope.contribution function a) =
      outcome answers (scope.contribution function b) := by
  have asNumbers : outcome answers (do return Contribution.numbers (← a.scalar function)) =
      outcome answers (do return Contribution.numbers (← b.scalar function)) :=
    outcome_bind_congr answers (outcome_scalar h function) fun _ => rfl
  unfold Scope.contribution
  rw [h.range]
  cases b.range? with
  | none => exact asNumbers
  | some read =>
    refine outcome_bind_congr answers rfl fun range => ?_
    cases range with
    | cell column row => exact asNumbers
    | span column first last => rfl

/-- A fold over arguments that agree. -/
theorem outcome_foldlM_arguments {σ : Type} {f : σ → Argument → Action σ}
    (hf : ∀ s a b, a.Agrees answers b → outcome answers (f s a) = outcome answers (f s b))
    (h : List.Forall₂ (Argument.Agrees answers) as bs) (s : σ) :
    outcome answers (as.foldlM f s) = outcome answers (bs.foldlM f s) := by
  induction h generalizing s with
  | nil => rfl
  | cons head _ ih =>
    rw [List.foldlM_cons, List.foldlM_cons]
    exact outcome_bind_congr answers (hf s _ _ head) fun s => ih s

theorem outcome_fold (h : List.Forall₂ (Argument.Agrees answers) as bs) (f : Fold) :
    outcome answers (scope.fold f as) = outcome answers (scope.fold f bs) := by
  refine outcome_bind_congr answers (outcome_foldlM_arguments (fun acc a b hab => ?_) h _) ?_
  · exact outcome_bind_congr answers (outcome_contribution scope hab f.toText) fun _ => rfl
  · exact fun _ => rfl

theorem outcome_average (h : List.Forall₂ (Argument.Agrees answers) as bs) :
    outcome answers (scope.average as) = outcome answers (scope.average bs) := by
  refine outcome_bind_congr answers (outcome_foldlM_arguments (fun tally a b hab => ?_) h _) ?_
  · exact outcome_bind_congr answers (outcome_contribution scope hab "AVERAGE") fun _ => rfl
  · exact fun _ => rfl

theorem rangeArgument_eq (h : a.Agrees answers b) (f : Conditional) :
    rangeArgument f a = rangeArgument f b := by
  unfold rangeArgument
  rw [h.range]

theorem outcome_conditional (h : List.Forall₂ (Argument.Agrees answers) as bs) (f : Conditional) :
    outcome answers (scope.conditional f as) = outcome answers (scope.conditional f bs) := by
  cases h with
  | nil => rfl
  | cons condition rest =>
    cases rest with
    | nil => rfl
    | cons criterion others =>
      unfold Scope.conditional
      simp only [others.length_eq, rangeArgument_eq condition]
      split
      · rfl
      · refine outcome_bind_congr answers rfl fun range => ?_
        refine outcome_bind_congr answers ?_ fun values => ?_
        · cases others with
          | nil => rfl
          | cons value _ => exact congrArg _ (congrArg liftM (rangeArgument_eq value f))
        · split
          · rfl
          · exact outcome_bind_congr answers criterion.value fun _ => rfl

theorem outcome_regexMatch (h : List.Forall₂ (Argument.Agrees answers) as bs) :
    outcome answers (scope.regexMatch as) = outcome answers (scope.regexMatch bs) := by
  cases h with
  | nil => rfl
  | cons text rest =>
    cases rest with
    | nil => rfl
    | cons pattern more =>
      cases more with
      | nil =>
        refine outcome_bind_congr answers text.value fun t => ?_
        split
        · rfl
        · exact outcome_bind_congr answers pattern.value fun _ => rfl
      | cons _ _ => rfl

theorem outcome_choose (h : List.Forall₂ (Argument.Agrees answers) as bs) :
    outcome answers (choose as) = outcome answers (choose bs) := by
  cases h with
  | nil => rfl
  | cons test rest =>
    cases rest with
    | nil => rfl
    | cons ifTrue more =>
      cases more with
      | nil => rfl
      | cons ifFalse others =>
        cases others with
        | nil =>
          refine outcome_bind_congr answers test.holds fun holds => ?_
          cases holds with
          | true => exact ifTrue.value
          | false => exact ifFalse.value
        | cons _ _ => rfl

/-- A call cannot tell apart arguments that agree. -/
theorem outcome_call (h : List.Forall₂ (Argument.Agrees answers) as bs) (name : Text) :
    outcome answers (scope.call name as) = outcome answers (scope.call name bs) := by
  unfold Scope.call
  split
  · exact outcome_fold scope h _
  · exact outcome_average scope h
  · exact outcome_conditional scope h _
  · exact outcome_regexMatch scope h
  · exact outcome_choose h
  · rfl

end Agreement

/-! ## Requests -/

/-- What an evaluation may ask: queries, and those only over a connection. -/
def Scope.Queries (scope : Scope) (r : Request) : Prop :=
  scope.connection.isSome ∧ ∃ sql params, r = .query sql params

/-- All that can be asked of an argument asks only for what satisfies `p`. -/
structure Argument.Asks (p : Request → Prop) (a : Argument) : Prop where
  value : (a.value ()).Asks p
  holds : (a.holds ()).Asks p

/-! ## Results -/

section Results

variable {answers : Answers} {scope : Scope} {as : List Argument}

theorem ensures_average : Ensures answers Token.IsResult (scope.average as) := by
  refine ensures_bind fun tally _ => ?_
  exact ensures_ite (fun _ => ensures_throw _) fun _ => ensures_pure (Token.isResult_ofNumber _)

theorem ensures_conditional (f : Conditional) :
    Ensures answers Token.IsResult (scope.conditional f as) := by
  match as with
  | [] => exact ensures_throw _
  | [_] => exact ensures_throw _
  | condition :: criterion :: more =>
    refine ensures_ite (fun _ => ensures_throw _) fun _ => ?_
    refine ensures_bind fun range _ => ?_
    refine ensures_bind fun values _ => ?_
    refine ensures_ite (fun _ => ensures_throw _) fun _ => ?_
    refine ensures_bind fun value _ => ?_
    refine ensures_bind fun criterion _ => ?_
    refine ensures_bind fun tally _ => ?_
    cases f with
    | countIf => exact ensures_pure (Token.isResult_ofNumber _)
    | sumIf => exact ensures_pure (Token.isResult_ofNumber _)
    | averageIf =>
      exact ensures_ite (fun _ => ensures_throw _) fun _ => ensures_pure (Token.isResult_ofNumber _)

theorem ensures_regexMatch : Ensures answers Token.IsResult (scope.regexMatch as) := by
  match as with
  | [text, pattern] =>
    refine ensures_bind fun t _ => ?_
    refine ensures_ite (fun _ => ensures_throw _) fun _ => ?_
    refine ensures_bind fun p _ => ?_
    refine ensures_ite (fun _ => ensures_throw _) fun _ => ?_
    cases scope.matcher.search? p.textValue t.textValue with
    | none => exact ensures_throw _
    | some found => exact ensures_pure (Token.isResult_ofLogical found)
  | [] => exact ensures_throw _
  | [_] => exact ensures_throw _
  | _ :: _ :: _ :: _ => exact ensures_throw _

theorem ensures_choose (h : ∀ a ∈ as, Ensures answers Token.IsResult (a.value ())) :
    Ensures answers Token.IsResult (choose as) := by
  unfold choose
  split
  next test ifTrue ifFalse =>
    refine ensures_bind fun holds _ => ?_
    cases holds with
    | true => exact h ifTrue (by simp)
    | false => exact h ifFalse (by simp)
  · exact ensures_throw _

/-- A call yields a number, a truth value, or the value of one of its arguments. -/
theorem ensures_call (h : ∀ a ∈ as, Ensures answers Token.IsResult (a.value ())) (name : Text) :
    Ensures answers Token.IsResult (scope.call name as) := by
  unfold Scope.call
  split
  · exact ensures_bind fun acc _ => ensures_pure (Token.isResult_ofNumber _)
  · exact ensures_average
  · exact ensures_conditional _
  · exact ensures_regexMatch
  · exact ensures_choose h
  · exact ensures_throw _

end Results

end JoinSheet
