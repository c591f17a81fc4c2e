import JoinSheet.Proofs.Database.Failure
import JoinSheet.Proofs.Evaluation.Reduction
import JoinSheet.Proofs.Sheet.Resolution

/-!
# How evaluations fail

An evaluation fails for what is wrong with the formula, with a statement that it needs, with a name
or with an answer. An aggregate is computed by the database only for a column of the loaded page, so
an evaluation never comes to miss the page.

## Main definitions

* `Error.Evaluative` — the errors that an evaluation may fail with of its own.

## Main statements

* `fails_call`, `Scope.fails_contract` — how calls and contractions fail.
* `Scope.fails_evaluate` — how evaluations fail.
-/

namespace JoinSheet

open JoinSheet.Action

/-- An evaluation may fail so of its own. It never fails because nothing is loaded. -/
def Error.Evaluative : Error → Prop
  | parse _ | eval _ | unsafeSql _ | internal _ => True
  | resolve (.nothingLoaded _) => False
  | resolve _ => True
  | graph _ | write _ | database _ | within .. => False

open Error (Evaluative)

/-! ## Statements -/

theorem Identifier.fails_read (t : Text) : Except.Fails Evaluative (read t) := by
  unfold read
  split
  · trivial
  · split
    · trivial
    · split <;> trivial

theorem Projection.fails_read (column : Text) (cast label : Option Text) :
    Except.Fails Evaluative (read column cast label) := by
  refine (Identifier.fails_read column).bind fun _ _ => ?_
  refine Except.Fails.bind (Except.fails_option_mapM fun t => ?_) fun _ _ => ?_
  · unfold CastType.read
    split
    · trivial
    · split <;> trivial
  · refine Except.Fails.bind (Except.fails_option_mapM fun t => ?_) fun _ _ => trivial
    unfold readLabel
    split
    · trivial
    · exact Identifier.fails_read t

theorem Join.fails_render (j : Join) : Except.Fails Evaluative j.render := by
  unfold render
  split
  · trivial
  · refine Except.Fails.bind (Except.fails_mapM fun pair _ => ?_) fun _ _ => ?_
    · refine (Identifier.fails_read _).bind fun _ _ => ?_
      exact (Identifier.fails_read _).bind fun _ _ => trivial
    · exact (Identifier.fails_read _).bind fun _ _ => trivial

theorem Select.fails_renderPage (s : Select) (columns : List Projection) :
    Except.Fails Evaluative (s.renderPage columns) := by
  unfold renderPage render
  split
  · trivial
  · refine Except.Fails.bind ?_ fun _ _ => trivial
    refine (Identifier.fails_read _).bind fun _ _ => ?_
    exact (Except.fails_mapM fun join _ => join.fails_render).bind fun _ _ => trivial

theorem Aggregate.fails_statement (window : Text) (aggregates : List Aggregate)
    (criterion : Option Criterion) (dialect : Dialect) :
    Except.Fails Evaluative (statement window aggregates criterion dialect) := by
  unfold statement
  split <;> trivial

/-! ## Names and values -/

theorem Reference.fails_readSide (t : Text) : Except.Fails Evaluative (readSide t) := by
  unfold readSide
  dsimp only
  split
  · trivial
  · split
    · trivial
    · split <;> trivial

theorem Reference.fails_read (t : Text) : Except.Fails Evaluative (read t) := by
  unfold read
  split
  · refine (fails_readSide t).bind fun side _ => ?_
    obtain ⟨column, _ | row⟩ := side <;> trivial
  · refine (fails_readSide _).bind fun start _ => ?_
    refine (fails_readSide _).bind fun stop _ => ?_
    dsimp only
    split
    · trivial
    · split <;> trivial

theorem Sheet.fails_resolveColumn (s : Sheet) (name : Text) :
    Except.Fails Evaluative (s.resolveColumn name) := by
  unfold resolveColumn
  split
  · unfold resolvePlain
    split
    · trivial
    · split <;> trivial
  · unfold resolveQualified
    split
    · trivial
    · split <;> trivial
  · trivial

theorem Sheet.fails_resolveCell (s : Sheet) (column : Text) (row : Nat) :
    Except.Fails Evaluative (s.resolveCell column row) := by
  cases row with
  | zero => trivial
  | succ i =>
    refine (s.fails_resolveColumn column).bind fun target _ => ?_
    cases target with
    | database index c =>
      dsimp only
      split <;> trivial
    | extra index => trivial

theorem Scope.fails_operand (scope : Scope) (t : Token) :
    Except.Fails Evaluative (scope.operand t) := by
  unfold operand
  split
  · trivial
  · split
    · trivial
    · refine (Reference.fails_read t.text).bind fun r _ => ?_
      cases r with
      | cell column row =>
        exact (scope.sheet.fails_resolveCell column row).bind fun _ _ => trivial
      | span => trivial

theorem fails_numeric (context : Text) (t : Token) :
    Except.Fails Evaluative (numeric context t) := by
  unfold numeric
  split
  · trivial
  · split <;> trivial

theorem fails_applySign (sign value : Token) : Except.Fails Evaluative (applySign sign value) := by
  unfold applySign
  split
  · trivial
  · split
    · exact (fails_numeric _ _).map
    · trivial

theorem Scope.fails_combine (scope : Scope) (op : Arithmetic) (left right : Token) :
    Except.Fails Evaluative (scope.combine op left right) := by
  refine (scope.fails_operand left).bind fun _ _ => ?_
  refine (fails_numeric _ _).bind fun x _ => ?_
  refine (scope.fails_operand right).bind fun _ _ => ?_
  refine (fails_numeric _ _).bind fun y _ => Except.Fails.bind ?_ fun _ _ => trivial
  unfold Arithmetic.apply
  split <;> (try split) <;> trivial

/-! ## Calls -/

/-- What an argument fails with, when it is asked for something, an evaluation may fail with. -/
structure Argument.Fails (a : Argument) : Prop where
  range : ∀ read, a.range? = some read → Except.Fails Evaluative read
  value : (a.value ()).Fails Evaluative
  holds : (a.holds ()).Fails Evaluative

section Calls

variable {scope : Scope} {a : Argument} {as : List Argument}

theorem fails_pushDown {page : Page} (loaded : scope.sheet.page = some page) (function : Text)
    (range : Reference) (projection : List Projection) (aggregates : List Aggregate)
    (criterion : Option (Criterion × Text)) :
    (scope.pushDown function range projection aggregates criterion).Fails Evaluative := by
  have present : scope.page = .ok page := by rw [Scope.page, loaded]
  unfold Scope.pushDown
  rw [present]
  refine fails_bind (fails_liftM trivial) fun page => ?_
  refine fails_bind (fails_liftM (Select.fails_renderPage _ _)) fun window => ?_
  dsimp only
  split
  · refine fails_bind (fails_liftM (Aggregate.fails_statement _ _ _ _)) fun sql => ?_
    refine fails_bind (fails_ask _) fun rows => ?_
    cases rows with
    | nil => exact fails_throw trivial
    | cons row _ =>
      refine fails_mapM fun v _ => fails_liftM ?_
      unfold readAnswer
      split
      · trivial
      · split <;> trivial
  · exact fails_throw trivial

theorem fails_scalar (ha : a.Fails) (function : Text) : (a.scalar function).Fails Evaluative := by
  refine fails_bind ha.value fun value => ?_
  split
  · exact fails_pure []
  · exact fails_bind (fails_liftM (fails_numeric _ _)) fun _ => fails_pure _

theorem fails_cellNumbers (function column : Text) (cells : List (Nat × Text)) :
    Except.Fails Evaluative (cellNumbers function column cells) :=
  Except.fails_mapM fun cell _ => by
    dsimp only
    split <;> trivial

theorem fails_contribution (ha : a.Fails) (function : Text) :
    (scope.contribution function a).Fails Evaluative := by
  unfold Scope.contribution
  split
  · exact fails_bind (fails_scalar ha function) fun _ => fails_pure _
  next read given =>
    refine fails_bind (fails_liftM (ha.range read given)) fun r => ?_
    cases r with
    | cell => exact fails_bind (fails_scalar ha function) fun _ => fails_pure _
    | span column =>
      refine fails_bind (fails_liftM (scope.sheet.fails_resolveColumn column)) fun target => ?_
      cases target with
      | database _ c => exact fails_pure _
      | extra i => exact fails_bind (fails_liftM (fails_cellNumbers _ _ _)) fun _ => fails_pure _

/-- The rows of a database column are contributed only from a loaded page. -/
theorem yields_contribution (scope : Scope) (function : Text) (a : Argument) :
    (scope.contribution function a).Yields fun
      | .database .. => ∃ page, scope.sheet.page = some page
      | .numbers _ => True := by
  unfold Scope.contribution
  split
  · exact yields_bind fun _ => yields_pure trivial
  · refine yields_bind fun r => ?_
    cases r with
    | cell => exact yields_bind fun _ => yields_pure trivial
    | span column =>
      refine (yields_liftM (scope.sheet.resolveColumn column)).bind fun target resolved => ?_
      cases target with
      | database i c => exact yields_pure (Sheet.exists_page_of_resolveColumn resolved)
      | extra i => exact yields_bind fun _ => yields_pure trivial

/-- What is done with a contribution may rely on the page if it is a database column. -/
theorem fails_contribution_bind {β : Type} {f : Contribution → Action β} (ha : a.Fails)
    (function : Text) (numbers : ∀ values, (f (.numbers values)).Fails Evaluative)
    (database : ∀ page, scope.sheet.page = some page →
      ∀ range c, (f (.database range c)).Fails Evaluative) :
    (scope.contribution function a >>= f).Fails Evaluative := by
  refine (fails_contribution ha function).bind (yields_contribution ..) fun contribution there => ?_
  cases contribution with
  | numbers values => exact numbers values
  | database range c =>
    obtain ⟨page, loaded⟩ := there
    exact database page loaded range c

theorem fails_fold (has : ∀ a ∈ as, a.Fails) (f : Fold) :
    (scope.fold f as).Fails Evaluative := by
  refine fails_bind (fails_foldlM (fun acc a mem => ?_) none) fun _ => fails_pure _
  refine fails_contribution_bind (has a mem) f.toText (fun _ => fails_pure _) ?_
  intro page loaded range c
  refine fails_bind (fails_liftM (Projection.fails_read _ _ _)) fun _ => ?_
  exact fails_bind (fails_pushDown loaded _ _ _ _ _) fun _ => fails_pure _

theorem fails_average (has : ∀ a ∈ as, a.Fails) : (scope.average as).Fails Evaluative := by
  refine fails_bind (fails_foldlM (fun tally a mem => ?_) _) fun tally => ?_
  · refine fails_contribution_bind (has a mem) _ (fun _ => fails_pure _) ?_
    intro page loaded range c
    refine fails_bind (fails_liftM (Projection.fails_read _ _ _)) fun _ => ?_
    exact fails_bind (fails_pushDown loaded _ _ _ _ _) fun _ => fails_pure _
  · exact fails_ite (fun _ => fails_throw trivial) fun _ => fails_pure _

theorem fails_tallyRow (f : Conditional) (criterion : CellCriterion) (values : List FormulaCell)
    (column : Text) (tally : Tally) (cell : Nat × Text) :
    Except.Fails Evaluative (tallyRow f criterion values column tally cell) := by
  unfold tallyRow
  split
  · trivial
  · split
    · trivial
    · split
      · trivial
      · split <;> trivial

theorem fails_conditionalAnswer (f : Conditional) (answer : List (Option Float)) :
    Except.Fails Evaluative (conditionalAnswer f answer) := by
  unfold conditionalAnswer
  split <;> trivial

theorem fails_tally (f : Conditional) (condition values : Reference) (criterion : CellCriterion) :
    (scope.tally f condition values criterion).Fails Evaluative := by
  have resolves (column : Text) := scope.sheet.fails_resolveColumn column
  unfold Scope.tally
  refine (fails_liftM (resolves condition.column)).bind (yields_liftM _) ?_
  intro conditionTarget resolved
  refine fails_bind (fails_liftM (resolves values.column)) fun valueTarget => ?_
  cases conditionTarget with
  | database i c =>
    obtain ⟨page, loaded⟩ := Sheet.exists_page_of_resolveColumn resolved
    cases valueTarget with
    | database j d =>
      refine fails_bind (fails_liftM (Projection.fails_read _ _ _)) fun _ => ?_
      refine fails_bind (fails_liftM (Projection.fails_read _ _ _)) fun _ => ?_
      refine fails_bind (fails_pushDown loaded _ _ _ _ _) fun answer => ?_
      exact fails_liftM (fails_conditionalAnswer f answer)
    | extra j => exact fails_throw trivial
  | extra i =>
    cases valueTarget with
    | database j d => exact fails_throw trivial
    | extra j => exact fails_foldlM (fun tally cell _ => fails_liftM (fails_tallyRow ..)) _

theorem fails_rangeArgument (ha : a.Fails) (f : Conditional) :
    Except.Fails Evaluative (rangeArgument f a) := by
  unfold rangeArgument
  split
  next read given => exact ha.range read given
  · trivial

theorem fails_conditional (has : ∀ a ∈ as, a.Fails) (f : Conditional) :
    (scope.conditional f as).Fails Evaluative := by
  match as with
  | [] => exact fails_throw trivial
  | [_] => exact fails_throw trivial
  | conditionArgument :: criterionArgument :: more =>
    refine fails_ite (fun _ => fails_throw trivial) fun _ => ?_
    refine fails_bind (fails_liftM (fails_rangeArgument (has _ (by simp)) f)) fun condition => ?_
    refine fails_bind (fails_liftM ?_) fun values => ?_
    · cases more with
      | nil => trivial
      | cons valueArgument _ => exact fails_rangeArgument (has valueArgument (by simp)) f
    refine fails_ite (fun _ => fails_throw trivial) fun _ => ?_
    refine fails_bind (has criterionArgument (by simp)).value fun value => ?_
    refine fails_bind (fails_liftM ?_) fun criterion => ?_
    · unfold CellCriterion.read
      dsimp only
      split <;> trivial
    refine fails_bind (fails_tally f condition values criterion) fun tally => ?_
    cases f with
    | countIf => exact fails_pure _
    | sumIf => exact fails_pure _
    | averageIf => exact fails_ite (fun _ => fails_throw trivial) fun _ => fails_pure _

theorem fails_regexMatch (has : ∀ a ∈ as, a.Fails) : (scope.regexMatch as).Fails Evaluative := by
  match as with
  | [text, pattern] =>
    refine fails_bind (has text (by simp)).value fun t => ?_
    refine fails_ite (fun _ => fails_throw trivial) fun _ => ?_
    refine fails_bind (has pattern (by simp)).value fun p => ?_
    refine fails_ite (fun _ => fails_throw trivial) fun _ => ?_
    cases scope.matcher.search? p.textValue t.textValue with
    | none => exact fails_throw trivial
    | some found => exact fails_pure _
  | [] => exact fails_throw trivial
  | [_] => exact fails_throw trivial
  | _ :: _ :: _ :: _ => exact fails_throw trivial

theorem fails_choose (has : ∀ a ∈ as, a.Fails) : (choose as).Fails Evaluative := by
  unfold choose
  split
  next test ifTrue ifFalse =>
    refine fails_bind (has test (by simp)).holds fun holds => ?_
    cases holds with
    | true => exact (has ifTrue (by simp)).value
    | false => exact (has ifFalse (by simp)).value
  · exact fails_throw trivial

/-- A call fails as its arguments do, or of its own as an evaluation may. -/
theorem fails_call (has : ∀ a ∈ as, a.Fails) (name : Text) :
    (scope.call name as).Fails Evaluative := by
  unfold Scope.call
  split
  · exact fails_fold has _
  · exact fails_average has
  · exact fails_conditional has _
  · exact fails_regexMatch has
  · exact fails_choose has
  · exact fails_throw trivial

end Calls

/-! ## Conditions and arguments -/

section Arguments

variable {n : Nat} {eval : Evaluator n}

theorem fails_compareValues (operator : Text) (left right : Token) :
    Except.Fails Evaluative (compareValues operator left right) := by
  unfold compareValues
  split
  · trivial
  · refine (fails_numeric _ _).bind fun _ _ => (fails_numeric _ _).bind fun _ _ => ?_
    split <;> trivial

theorem fails_truthValue (value : Token) : Except.Fails Evaluative (truthValue value) := by
  unfold truthValue
  split <;> trivial

theorem fails_condition (he : ∀ part, (eval part).Fails Evaluative) (tokens : Part n) :
    (condition eval tokens).Fails Evaluative := by
  unfold condition
  split
  · exact fails_bind (he tokens) fun _ => fails_liftM (fails_truthValue _)
  · refine fails_ite (fun _ => fails_throw trivial) fun _ => ?_
    refine fails_bind (he _) fun _ => fails_bind (he _) fun _ => ?_
    exact fails_liftM (fails_compareValues _ _ _)

theorem fails_ofPart (he : ∀ part, (eval part).Fails Evaluative) (part : Part n) :
    (Argument.ofPart eval part).Fails where
  range read h := by
    simp only [Argument.ofPart] at h
    unfold loneRange? at h
    split at h
    · split at h <;> cases h
      exact Reference.fails_read _
    · cases h
  value := he part
  holds := fails_condition he part

end Arguments

/-! ## Contractions and reductions -/

namespace Scope

section Contractions

variable {scope : Scope} {tokens : List Token} {eval : Evaluator tokens.length}

/-- If the rule applies, then it fails as an evaluation may. -/
def RuleFails {tokens : List Token} (rule : Contraction tokens) : Prop :=
  ∀ contraction, rule = some contraction → contraction.Fails Evaluative

theorem RuleFails.or {a b : Contraction tokens} (ha : RuleFails a) (hb : RuleFails b) :
    RuleFails (a.or b) := by
  cases a with
  | none => exact hb
  | some contraction => exact ha

theorem fails_signRule : RuleFails (scope.signRule tokens) := by
  rintro contraction h
  unfold signRule at h
  split at h <;> cases h
  refine fails_bind (fails_liftM (scope.fails_operand _)) fun _ => ?_
  exact fails_bind (fails_liftM (fails_applySign _ _)) fun _ => fails_pure _

theorem fails_contractGroup {cut : Cut} (whole : cut.whole = tokens)
    {f : Part tokens.length → Action Token} (hf : ∀ part, (f part).Fails Evaluative) :
    (contractGroup cut whole f).Fails Evaluative := by
  unfold contractGroup
  split
  · exact fails_throw trivial
  · exact fails_bind (hf _) fun _ => fails_pure _

theorem fails_groupRule (he : ∀ part, (eval part).Fails Evaluative) :
    RuleFails (groupRule tokens eval) := by
  rintro contraction h
  unfold groupRule at h
  split at h <;> cases h
  exact fails_contractGroup _ he

theorem fails_callRule (he : ∀ part, (eval part).Fails Evaluative) :
    RuleFails (scope.callRule tokens eval) := by
  rintro contraction h
  unfold callRule at h
  split at h <;> cases h
  refine fails_contractGroup _ fun inside => fails_call (fun a mem => ?_) _
  obtain ⟨part, -, rfl⟩ := List.mem_map.1 mem
  exact fails_ofPart he part

theorem fails_operatorRule (factors : Bool) : RuleFails (scope.operatorRule factors tokens) := by
  rintro contraction h
  unfold operatorRule at h
  split at h
  · cases h
  · dsimp only at h
    split at h <;> cases h
    · split
      · exact fails_bind (fails_liftM (scope.fails_combine _ _ _)) fun _ => fails_pure _
      · exact fails_throw trivial
    · exact fails_throw trivial

/-- A contraction fails as the evaluations of parts do, or of its own as an evaluation may. -/
theorem fails_contract (he : ∀ part, (eval part).Fails Evaluative) :
    (scope.contract tokens eval).Fails Evaluative := by
  have rules : RuleFails (scope.signRule tokens |>.or <| (groupRule tokens eval).or <|
      (scope.callRule tokens eval).or <|
        (scope.operatorRule true tokens).or (scope.operatorRule false tokens)) :=
    fails_signRule.or <| (fails_groupRule he).or <| (fails_callRule he).or <|
      (fails_operatorRule true).or (fails_operatorRule false)
  rw [contract_eq_or]
  generalize Option.or _ _ = chosen at rules ⊢
  cases chosen with
  | none => exact fails_throw trivial
  | some contraction => exact rules contraction rfl

end Contractions

theorem fails_reduceWithin (scope : Scope) (n : Nat) {tokens : List Token}
    (short : tokens.length ≤ n) : (scope.reduceWithin n tokens short).Fails Evaluative := by
  induction n generalizing tokens with
  | zero =>
    match tokens, short with
    | [], _ => exact fails_throw trivial
  | succ n ih =>
    match tokens with
    | [] => exact fails_throw trivial
    | [only] => exact fails_liftM (scope.fails_operand only)
    | first :: second :: rest =>
      rw [reduceWithin]
      refine fails_ite (fun _ => ?_) fun _ => ?_
      · exact fails_bind (ih _) fun _ => fails_liftM (fails_applySign _ _)
      · exact fails_bind (fails_contract fun _ => ih _) fun _ => ih _

/-- Whatever sheet a formula is evaluated on, with a connection or without one, it does not fail
because nothing is loaded. -/
theorem fails_evaluate (scope : Scope) (tokens : List Token) :
    (scope.evaluate tokens).Fails Evaluative :=
  scope.fails_reduceWithin _ _

end Scope

end JoinSheet
