import JoinSheet.Proofs.Database.Failure
import JoinSheet.Proofs.Evaluation.Dependence

/-!
# What an evaluation keeps

A formula is evaluated by putting values in the place of tokens. These values are tokens of the
formula, what cells show, numbers and truth values. So what is said of these four kinds of values,
and of tokens whose place they take, holds of the tokens at every stage and of the value at the end.

## Main definitions

* `Keeps` — what is said of tokens and of the values that take their place.

## Main statements

* `Keeps.yields_contract` — a contraction keeps it.
* `Keeps.yields_reduce` — an expression is evaluated to a value that it is said of.
-/

namespace JoinSheet

/-- What is said of tokens, `P`, and of the values that take their place, `Q`. -/
structure Keeps (P Q : Token → Prop) : Prop where
  /-- A value may take the place of a token. -/
  token {v : Token} : Q v → P v
  value {t : Token} : P t → t.isValue → ¬t.isRange → Q t
  ofCell (c : Cell) : Q (.ofCell c)
  ofNumber (x : Float) : Q (.ofNumber x)
  ofLogical (b : Bool) : Q (.ofLogical b)

open JoinSheet.Action

variable {scope : Scope} {P Q : Token → Prop} {t v w : Token}

/-! ## Operands -/

namespace Keeps

variable (keeps : Keeps P Q)

include keeps

theorem of_operand (ht : P t) (h : scope.operand t = .ok v) : Q v := by
  unfold Scope.operand at h
  split at h
  · cases h
  next isValue =>
    split at h
    next notRange =>
      cases h
      exact keeps.value ht (by simpa using isValue) (by simpa using notRange)
    · obtain ⟨reference, -, h⟩ := Except.bind_eq_ok.1 h
      cases reference with
      | cell column row =>
        obtain ⟨cell, -, h⟩ := Except.bind_eq_ok.1 h
        cases h
        exact keeps.ofCell cell
      | span column first last => cases h

theorem of_applySign {sign : Token} (hv : Q v) (h : applySign sign v = .ok w) : Q w := by
  unfold applySign at h
  split at h
  · cases h
    exact hv
  · split at h
    · obtain ⟨x, -, rfl⟩ := Except.map_eq_ok.1 h
      exact keeps.ofNumber (-x)
    · cases h

theorem of_combine {op : Arithmetic} {left right : Token}
    (h : scope.combine op left right = .ok v) : Q v := by
  unfold Scope.combine at h
  obtain ⟨_, -, h⟩ := Except.bind_eq_ok.1 h
  obtain ⟨_, -, h⟩ := Except.bind_eq_ok.1 h
  obtain ⟨_, -, h⟩ := Except.bind_eq_ok.1 h
  obtain ⟨_, -, h⟩ := Except.bind_eq_ok.1 h
  obtain ⟨z, -, h⟩ := Except.bind_eq_ok.1 h
  cases h
  exact keeps.ofNumber z

end Keeps

/-! ## Calls -/

section Calls

variable {post : Token → Prop} {as : List Argument}

theorem yields_conditional (number : ∀ x, post (.ofNumber x)) (f : Conditional) :
    (scope.conditional f as).Yields post := by
  match as with
  | [] => exact yields_throw _
  | [_] => exact yields_throw _
  | condition :: criterion :: more =>
    refine yields_ite (fun _ => yields_throw _) fun _ => ?_
    refine yields_bind fun range => yields_bind fun values => ?_
    refine yields_ite (fun _ => yields_throw _) fun _ => ?_
    refine yields_bind fun value => yields_bind fun criterion => yields_bind fun tally => ?_
    cases f with
    | countIf => exact yields_pure (number _)
    | sumIf => exact yields_pure (number _)
    | averageIf => exact yields_ite (fun _ => yields_throw _) fun _ => yields_pure (number _)

theorem yields_regexMatch (logical : ∀ b, post (.ofLogical b)) :
    (scope.regexMatch as).Yields post := by
  unfold Scope.regexMatch
  split
  · refine yields_bind fun t => yields_ite (fun _ => yields_throw _) fun _ => ?_
    refine yields_bind fun p => yields_ite (fun _ => yields_throw _) fun _ => ?_
    split
    · exact yields_pure (logical _)
    · exact yields_throw _
  · exact yields_throw _

theorem yields_choose (each : ∀ a ∈ as, (a.value ()).Yields post) :
    (choose as).Yields post := by
  unfold choose
  split
  next test ifTrue ifFalse =>
    refine yields_bind fun holds => yields_ite (fun _ => ?_) fun _ => ?_
    · exact each ifTrue (by simp)
    · exact each ifFalse (by simp)
  · exact yields_throw _

/-- A call yields a number, a truth value or what one of its arguments does. -/
theorem yields_call (number : ∀ x, post (.ofNumber x)) (logical : ∀ b, post (.ofLogical b))
    (each : ∀ a ∈ as, (a.value ()).Yields post) (name : Text) :
    (scope.call name as).Yields post := by
  unfold Scope.call
  split
  · exact yields_bind fun _ => yields_pure (number _)
  · refine yields_bind fun tally => yields_ite (fun _ => yields_throw _) fun _ => ?_
    exact yields_pure (number _)
  · exact yields_conditional number _
  · exact yields_regexMatch logical
  · exact yields_choose each
  · exact yields_throw _

end Calls

/-! ## Contractions -/

/-- If the rule applies, then it leaves tokens that satisfy `P`. -/
def Scope.RuleYields (P : Token → Prop) {tokens : List Token} (rule : Contraction tokens) : Prop :=
  ∀ contraction, rule = some contraction →
    contraction.Yields fun next => ∀ t ∈ next.1, P t

theorem Scope.RuleYields.or {tokens : List Token} {a b : Contraction tokens}
    (ha : RuleYields P a) (hb : RuleYields P b) : RuleYields P (a.or b) := by
  cases a with
  | none => exact hb
  | some contraction => exact ha

/-- Where the tokens of a part satisfy `P`, its value satisfies `Q`. -/
def Scope.EvaluatorYields (P Q : Token → Prop) {n : Nat} (eval : Evaluator n) : Prop :=
  ∀ part : Part n, (∀ t ∈ part.1, P t) → (eval part).Yields Q

namespace Keeps

open Scope

section Contractions

variable {tokens : List Token} {eval : Evaluator tokens.length}

variable (keeps : Keeps P Q) (each : ∀ t ∈ tokens, P t) (he : EvaluatorYields P Q eval)

include keeps

/-- A value takes the place of tokens. -/
theorem replace {before after : List Token} (hv : Q v) (others : ∀ t ∈ before ++ after, P t) :
    ∀ t ∈ before ++ v :: after, P t := by
  grind [keeps.token hv]

include each

theorem yields_signRule : RuleYields P (scope.signRule tokens) := by
  rintro contraction h
  unfold signRule at h
  split at h <;> cases h
  next before sign value after found =>
    rw [← Cut.whole_of_first? found] at each
    refine (yields_liftM (scope.operand value)).bind fun v read => ?_
    refine (yields_liftM (applySign sign v)).bind fun w signed => yields_pure ?_
    have hv : Q v := keeps.of_operand (each value (by simp [Cut.whole])) read
    exact keeps.replace (keeps.of_applySign hv signed) (by grind [Cut.whole])

theorem yields_contractGroup {cut : Cut} (whole : cut.whole = tokens)
    {f : Part tokens.length → Action Token} (hf : EvaluatorYields P Q f) :
    (contractGroup cut whole f).Yields fun next => ∀ t ∈ next.1, P t := by
  rw [← whole] at each
  unfold contractGroup
  split
  · exact yields_throw _
  next inside close after closed =>
    have rest := Cut.whole_of_closing? closed
    refine (hf ⟨inside, _⟩ (by grind [Cut.whole])).bind fun v hv => yields_pure ?_
    exact keeps.replace hv (by grind [Cut.whole])

include he

theorem yields_groupRule : RuleYields P (groupRule tokens eval) := by
  rintro contraction h
  unfold groupRule at h
  split at h <;> cases h
  exact keeps.yields_contractGroup each _ he

theorem yields_callRule : RuleYields P (scope.callRule tokens eval) := by
  rintro contraction h
  unfold callRule at h
  split at h <;> cases h
  refine keeps.yields_contractGroup each _ fun inside within => ?_
  refine yields_call keeps.ofNumber keeps.ofLogical (fun a mem => ?_) _
  obtain ⟨part, hp, rfl⟩ := List.mem_map.1 mem
  obtain ⟨⟨part, split⟩, -, rfl⟩ := List.mem_map.1 hp
  exact he _ fun t ht => within t (mem_of_mem_splitArguments split ht)

omit he

theorem yields_operatorRule (factors : Bool) :
    RuleYields P (scope.operatorRule factors tokens) := by
  rintro contraction h
  unfold operatorRule at h
  split at h
  · cases h
  next before operator after found =>
    rw [← Cut.whole_of_first? found] at each
    dsimp only at h
    split at h <;> cases h
    next left right after _ _ last =>
      split
      next op known =>
        refine (yields_liftM (scope.combine op left right)).bind fun v combined => yields_pure ?_
        refine keeps.replace (keeps.of_combine combined) ?_
        grind [Cut.whole, List.dropLast_subset]
      · exact yields_throw _
    · exact yields_throw _

include he

/-- A contraction keeps what is said of tokens. -/
theorem yields_contract :
    (scope.contract tokens eval).Yields fun next => ∀ t ∈ next.1, P t := by
  have rules : RuleYields P (scope.signRule tokens |>.or <| (groupRule tokens eval).or <|
      (scope.callRule tokens eval).or <|
        (scope.operatorRule true tokens).or (scope.operatorRule false tokens)) :=
    (keeps.yields_signRule each).or <| (keeps.yields_groupRule each he).or <|
      (keeps.yields_callRule each he).or <|
        (keeps.yields_operatorRule each true).or (keeps.yields_operatorRule each false)
  rw [contract_eq_or]
  generalize Option.or _ _ = chosen at rules ⊢
  cases chosen with
  | none => exact yields_throw _
  | some contraction => exact rules contraction rfl

end Contractions

/-! ## Reductions -/

section Reductions

variable (keeps : Keeps P Q)

include keeps

theorem yields_reduceWithin (scope : Scope) (n : Nat) {tokens : List Token}
    (short : tokens.length ≤ n) (each : ∀ t ∈ tokens, P t) :
    (scope.reduceWithin n tokens short).Yields Q := by
  induction n generalizing tokens with
  | zero =>
    match tokens, short with
    | [], _ => exact yields_throw _
  | succ n ih =>
    match tokens with
    | [] => exact yields_throw _
    | [only] =>
      exact (yields_liftM _).mono fun v => keeps.of_operand (each only (by simp))
    | first :: second :: rest =>
      rw [reduceWithin]
      refine yields_ite (fun _ => ?_) fun _ => ?_
      · refine (ih _ fun t ht => each t (List.mem_cons_of_mem _ ht)).bind fun v hv => ?_
        exact (yields_liftM _).mono fun w => keeps.of_applySign hv
      · refine (keeps.yields_contract each fun part hp => ih _ hp).bind fun next hn => ?_
        exact ih _ hn

/-- Whatever the database answers, what is said of all tokens is said of the value. -/
theorem yields_reduce (scope : Scope) {tokens : List Token} (each : ∀ t ∈ tokens, P t) :
    (scope.reduce tokens).Yields Q :=
  keeps.yields_reduceWithin scope _ _ each

theorem yields_evaluate (scope : Scope) {tokens : List Token} (each : ∀ t ∈ tokens, P t) :
    (scope.evaluate tokens).Yields Q :=
  keeps.yields_reduce scope fun t mem => each t (List.mem_of_mem_filter mem)

end Reductions

end Keeps

end JoinSheet
