import JoinSheet.Proofs.Database.Coincidence
import JoinSheet.Proofs.Evaluation.Call
import JoinSheet.Proofs.Sheet.Agreement

/-!
# Calls keep to references

An evaluation reads a sheet only through the references of its formula, and all that it asks is
aggregates over rows that one of the references covers. Here this is said of operands and of calls,
given that their arguments keep to the references. On two sheets that agree on these, a call is one
and the same dialogue.

## Main definitions

* `Token.Within` — a token that only refers to references of a set.
* `Scope.Pushes` — the aggregates that some references lead to.
* `Scope.AgreesOn` — scopes that some references cannot tell apart.

## Main statements

* `coincide_call` — a call does not tell apart scopes that agree.
* `asks_call` — what is asked for a call.
-/

namespace JoinSheet

open JoinSheet.Action

/-- If the token refers to cells, then by a reference in `S`. -/
def Token.Within (S : Reference → Prop) (t : Token) : Prop :=
  t.isRange → ∀ r, Reference.read t.text = .ok r → S r

/-- The references that tokens spell. -/
def Token.Refers (tokens : List Token) (r : Reference) : Prop :=
  ∃ t ∈ tokens, t.isRange ∧ Reference.read t.text = .ok r

instance {tokens : List Token} {P : Reference → Prop} [DecidablePred P] :
    Decidable (∀ r, Token.Refers tokens r → P r) :=
  decidable_of_iff (∀ t ∈ tokens, t.isRange → ∀ r, Reference.read t.text = .ok r → P r)
    ⟨fun h r ⟨t, ht, range, read⟩ => h t ht range r read,
      fun h t ht range r read => h r ⟨t, ht, range, read⟩⟩

namespace Scope

/-- A reference in `S` to the same rows as `range` names the database column that is read. -/
def Names (scope : Scope) (S : Reference → Prop) (range : Reference) (q : Projection) : Prop :=
  ∃ r c i cast label, S r ∧ aligned range r ∧
    scope.sheet.resolveColumn r.column = .ok (.database i c) ∧
      Projection.read c.qualified cast (some label) = .ok q

/-- The queries for an aggregate over the rows of the loaded page's selection that a reference in `S`
covers, of columns that such references name. -/
inductive Pushes (scope : Scope) (S : Reference → Prop) : Request → Prop where
  | query {dialect : Dialect} {page : Page} {range : Reference} {projection : List Projection}
    {aggregates : List Aggregate} {criterion : Option (Criterion × Text)} {window sql : Text}
    (connected : scope.connection = some dialect) (loaded : scope.sheet.page = some page)
    (mem : S range) (named : ∀ q ∈ projection, scope.Names S range q)
    (rendered : page.window.renderPage projection = .ok window)
    (stated : Aggregate.statement window aggregates (criterion.map Prod.fst) dialect = .ok sql) :
    Pushes scope S (.query sql (.positional ((Text.ofNat (windowBounds range page.offset).1 ::
      Text.ofNat (windowBounds range page.offset).2 :: (criterion.map Prod.snd).toList).map some)))

/-- The scopes have the same connection and the same matcher, and sheets that agree on the references
in `S`. The queries that these references lead to satisfy `p`. -/
structure AgreesOn (S : Reference → Prop) (p : Request → Prop) (scope scope' : Scope) : Prop where
  connection : scope'.connection = scope.connection
  matcher : scope'.matcher = scope.matcher
  sheet : scope.sheet.AgreesOn S scope'.sheet
  pushes : ∀ request, scope.Pushes S request → p request

theorem agreesOn_refl {S : Reference → Prop} {p : Request → Prop} {scope : Scope}
    (pushes : ∀ request, scope.Pushes S request → p request) : scope.AgreesOn S p scope :=
  ⟨rfl, rfl, scope.sheet.agreesOn_refl S, pushes⟩

end Scope

variable {S : Reference → Prop} {p : Request → Prop} {scope scope' : Scope}

/-! ## Operands -/

theorem Token.within_of_not_isRange {t : Token} (h : ¬ t.isRange) : t.Within S :=
  fun range => absurd range h

theorem Token.IsResult.within {t : Token} (h : t.IsResult) : t.Within S :=
  within_of_not_isRange h.2

theorem within_of_operand {t v : Token} (h : scope.operand t = .ok v) : v.Within S := by
  unfold Scope.operand at h
  split at h
  · cases h
  · split at h
    next notRange =>
      cases h
      exact Token.within_of_not_isRange (by simpa using notRange)
    next =>
      obtain ⟨r, -, h⟩ := Except.bind_eq_ok.1 h
      cases r with
      | cell column row =>
        obtain ⟨cell, -, h⟩ := Except.bind_eq_ok.1 h
        cases h
        exact (Token.isResult_ofCell cell).within
      | span => cases h

theorem within_of_applySign {sign v w : Token} (hv : v.Within S) (h : applySign sign v = .ok w) :
    w.Within S := by
  unfold applySign at h
  split at h
  · cases h
    exact hv
  · split at h
    · obtain ⟨x, -, rfl⟩ := Except.map_eq_ok.1 h
      exact (Token.isResult_ofNumber _).within
    · cases h

theorem operand_eq_of_agreesOn (h : scope.AgreesOn S p scope') {t : Token} (ht : t.Within S) :
    scope'.operand t = scope.operand t := by
  unfold Scope.operand
  split
  · rfl
  · split
    · rfl
    next range =>
      have mem := ht (by simpa using range)
      cases read : Reference.read t.text with
      | error e => rfl
      | ok r =>
        cases r with
        | cell column row =>
          have same := h.sheet.resolveCell_eq (mem _ read)
          simp only [bind, Except.bind, same]
        | span => rfl

theorem coincide_operand (h : scope.AgreesOn S p scope') {t : Token} (ht : t.Within S) :
    Coincide p (Token.Within S) (liftM (scope.operand t))
      (liftM (scope'.operand t)) := by
  rw [operand_eq_of_agreesOn h ht]
  exact coincide_liftM fun v hv => within_of_operand hv

theorem coincide_combine (h : scope.AgreesOn S p scope') (op : Arithmetic) {left right : Token}
    (hl : left.Within S) (hr : right.Within S) :
    Coincide p (Token.Within S) (liftM (scope.combine op left right))
      (liftM (scope'.combine op left right)) := by
  unfold Scope.combine
  rw [operand_eq_of_agreesOn h hl, operand_eq_of_agreesOn h hr]
  refine coincide_liftM fun v hv => ?_
  obtain ⟨x, -, hv⟩ := Except.bind_eq_ok.1 hv
  obtain ⟨m, -, hv⟩ := Except.bind_eq_ok.1 hv
  obtain ⟨y, -, hv⟩ := Except.bind_eq_ok.1 hv
  obtain ⟨n, -, hv⟩ := Except.bind_eq_ok.1 hv
  obtain ⟨z, -, hv⟩ := Except.bind_eq_ok.1 hv
  cases hv
  exact (Token.isResult_ofNumber z).within

/-! ## Calls -/

/-- What may be asked of an argument keeps to the references in `S`. -/
structure Argument.Confined (p : Request → Prop) (S : Reference → Prop) (a : Argument) : Prop where
  range : ∀ r, a.range? = some (.ok r) → S r
  value : Coincide p (Token.Within S) (a.value ()) (a.value ())
  holds : Coincide p (fun _ => True) (a.holds ()) (a.holds ())

section Calls

variable {a : Argument} {as : List Argument}

theorem coincide_pushDown (h : scope.AgreesOn S p scope') (function : Text) {range : Reference}
    {projection : List Projection} (mem : S range)
    (named : ∀ q ∈ projection, scope.Names S range q) (aggregates : List Aggregate)
    (criterion : Option (Criterion × Text)) :
    Coincide p (fun _ => True)
      (scope.pushDown function range projection aggregates criterion)
      (scope'.pushDown function range projection aggregates criterion) := by
  have same : scope'.pushDown function range projection aggregates criterion =
      scope.pushDown function range projection aggregates criterion := by
    unfold Scope.pushDown Scope.page
    rw [h.connection, h.sheet.page, h.sheet.path]
  rw [same]
  refine ⟨rfl, ?_, yields_true _⟩
  refine asks_liftM_bind fun page loaded => ?_
  have loaded : scope.sheet.page = some page := by
    unfold Scope.page at loaded
    split at loaded <;> cases loaded
    assumption
  refine asks_liftM_bind fun window rendered => ?_
  cases connected : scope.connection with
  | none => exact asks_throw _
  | some dialect =>
    refine asks_liftM_bind fun sql stated => ?_
    refine asks_bind (asks_ask ?_) fun rows => ?_
    · exact h.pushes _ (.query connected loaded mem named rendered stated)
    · cases rows with
      | nil => exact asks_throw _
      | cons row _ => exact asks_mapM fun v _ => asks_liftM _

/-- The rows of a database column that are contributed are named by a reference in `S`. -/
def Contribution.Named (scope : Scope) (S : Reference → Prop) : Contribution → Prop
  | .database range c =>
    S range ∧ ∃ i, scope.sheet.resolveColumn range.column = .ok (.database i c)
  | .numbers _ => True

theorem coincide_scalar (ha : a.Confined p S) (function : Text) :
    Coincide p (Contribution.Named scope S)
      (do return Contribution.numbers (← a.scalar function))
      (do return Contribution.numbers (← a.scalar function)) := by
  have scalar : Coincide p (fun _ => True) (a.scalar function)
      (a.scalar function) := by
    refine ha.value.bind fun value _ => ?_
    cases value.toCell with
    | none => exact coincide_pure trivial
    | some _ => exact (coincide_liftM fun _ _ => trivial).bind fun _ _ => coincide_pure trivial
  exact scalar.bind fun _ _ => coincide_pure trivial

theorem coincide_contribution (h : scope.AgreesOn S p scope') (ha : a.Confined p S)
    (function : Text) :
    Coincide p (Contribution.Named scope S) (scope.contribution function a)
      (scope'.contribution function a) := by
  unfold Scope.contribution
  cases given : a.range? with
  | none => exact coincide_scalar ha function
  | some read =>
    refine (coincide_liftM fun r hr => ha.range r (given.trans (congrArg some hr))).bind ?_
    intro r mem
    cases r with
    | cell column row => exact coincide_scalar ha function
    | span column first last =>
      have alike := h.sheet.alike _ mem
      simp only [Reference.column] at alike
      dsimp only
      generalize target : scope.sheet.resolveColumn column = t at alike ⊢
      generalize scope'.sheet.resolveColumn column = t' at alike ⊢
      cases alike with
      | error e => exact coincide_throw e
      | database i c => exact coincide_pure ⟨mem, i, target⟩
      | extra shown =>
        have same := Sheet.populated_congr shown
        unfold Sheet.populated at same
        simp only [liftM_ok_bind, same]
        exact (coincide_liftM fun _ _ => trivial).bind fun _ _ => coincide_pure trivial

/-- The aggregated column is named by the reference that it is aggregated over. -/
theorem Contribution.Named.names {range : Reference} {c : SheetColumn}
    (h : (Contribution.database range c).Named scope S) {cast : Option Text} {q : Projection}
    (read : valueProjection c cast = .ok q) : ∀ q' ∈ [q], scope.Names S range q' := by
  obtain ⟨mem, i, target⟩ := h
  intro q' hq
  rw [List.mem_singleton.1 hq]
  exact ⟨range, c, i, cast, _, mem, by simp [aligned], target, read⟩

theorem coincide_fold (h : scope.AgreesOn S p scope') (has : ∀ a ∈ as, a.Confined p S)
    (f : Fold) :
    Coincide p (Token.Within S) (scope.fold f as) (scope'.fold f as) := by
  refine Coincide.bind (P := fun _ => True) ?_ fun acc _ =>
    coincide_pure (Token.isResult_ofNumber _).within
  refine coincide_foldlM trivial fun acc a ha _ => ?_
  refine (coincide_contribution h (has a ha) f.toText).bind fun contribution named => ?_
  cases contribution with
  | numbers values => exact coincide_pure trivial
  | database range c =>
    refine (coincide_liftM fun q hq => named.names hq).bind fun q names => ?_
    exact (coincide_pushDown h _ named.1 names _ _).bind fun _ _ => coincide_pure trivial

theorem coincide_average (h : scope.AgreesOn S p scope') (has : ∀ a ∈ as, a.Confined p S) :
    Coincide p (Token.Within S) (scope.average as) (scope'.average as) := by
  refine Coincide.bind (P := fun _ => True) ?_ fun tally _ =>
    coincide_ite (fun _ => coincide_throw _) fun _ =>
      coincide_pure (Token.isResult_ofNumber _).within
  refine coincide_foldlM trivial fun tally a ha _ => ?_
  refine (coincide_contribution h (has a ha) "AVERAGE").bind fun contribution named => ?_
  cases contribution with
  | numbers values => exact coincide_pure trivial
  | database range c =>
    refine (coincide_liftM fun q hq => named.names hq).bind fun q names => ?_
    exact (coincide_pushDown h _ named.1 names _ _).bind fun _ _ => coincide_pure trivial

/-- The tally of extra cells looks only at rows that both ranges cover. -/
theorem tallyRow_eq {i i' : Nat} {r : Reference} {row : Nat × Text}
    (shown : ∀ row, r.Covers row → scope'.sheet.shown i' row = scope.sheet.shown i row)
    (covered : r.Covers row.1) (f : Conditional) (criterion : CellCriterion) (column : Text)
    (tally : Tally) :
    tallyRow f criterion ((scope'.sheet.extras[i']?.map ExtraColumn.cells).getD []) column tally row =
      tallyRow f criterion ((scope.sheet.extras[i]?.map ExtraColumn.cells).getD []) column tally
        row := by
  have cell (s : Sheet) (i : Nat) :
      ((s.extras[i]?.map ExtraColumn.cells).getD [])[row.1]?.bind FormulaCell.value =
        s.shown i row.1 := by
    unfold Sheet.shown
    cases s.extras[i]? <;> simp
  unfold tallyRow
  rw [cell, cell, shown row.1 covered]

theorem coincide_tally (h : scope.AgreesOn S p scope') (f : Conditional)
    {condition values : Reference} (hc : S condition) (hv : S values)
    (sameRows : aligned condition values) (criterion : CellCriterion) :
    Coincide p (fun _ => True) (scope.tally f condition values criterion)
      (scope'.tally f condition values criterion) := by
  unfold Scope.tally
  have alikeCondition := h.sheet.alike condition hc
  have alikeValues := h.sheet.alike values hv
  generalize conditionTarget : scope.sheet.resolveColumn condition.column = t at alikeCondition ⊢
  generalize scope'.sheet.resolveColumn condition.column = t' at alikeCondition ⊢
  generalize valueTarget : scope.sheet.resolveColumn values.column = u at alikeValues ⊢
  generalize scope'.sheet.resolveColumn values.column = u' at alikeValues ⊢
  cases alikeCondition with
  | error e => exact coincide_throw e
  | database i c =>
    cases alikeValues with
    | error e => exact coincide_throw e
    | extra => exact coincide_throw _
    | database j d =>
      simp only [liftM_ok_bind]
      refine Coincide.bind (coincide_liftM fun q hq => hq) fun value readValue => ?_
      refine Coincide.bind (coincide_liftM fun q hq => hq) fun cond readCond => ?_
      have named : ∀ q ∈ [value, cond], scope.Names S condition q := by
        intro q hq
        obtain rfl | rfl : q = value ∨ q = cond := by simpa using hq
        · exact ⟨values, d, j, _, _, hv, sameRows, valueTarget, readValue⟩
        · exact ⟨condition, c, i, _, _, hc, by simp [aligned], conditionTarget, readCond⟩
      refine (coincide_pushDown h _ hc named _ _).bind fun answer _ => ?_
      exact coincide_liftM fun _ _ => trivial
  | extra shownCondition =>
    cases alikeValues with
    | error e => exact coincide_throw e
    | database => exact coincide_throw _
    | extra shownValues =>
      have same := Sheet.populated_congr shownCondition
      unfold Sheet.populated at same
      simp only [liftM_ok_bind, same]
      refine coincide_foldlM trivial fun tally cell mem _ => ?_
      have covered := Sheet.covers_of_mem_populated mem
      have rows : values.Covers cell.1 := by
        simp only [aligned, Bool.and_eq_true, decide_eq_true_eq] at sameRows
        rwa [Reference.Covers, ← sameRows.1, ← sameRows.2]
      rw [tallyRow_eq shownValues rows]
      exact coincide_liftM fun _ _ => trivial

theorem rangeArgument_eq_ok {f : Conditional} {r : Reference} (h : rangeArgument f a = .ok r) :
    a.range? = some (.ok r) := by
  unfold rangeArgument at h
  split at h
  next given => rw [given, h]
  next => cases h

theorem coincide_conditional (h : scope.AgreesOn S p scope') (has : ∀ a ∈ as, a.Confined p S)
    (f : Conditional) :
    Coincide p (Token.Within S) (scope.conditional f as)
      (scope'.conditional f as) := by
  match as with
  | [] => exact coincide_throw _
  | [_] => exact coincide_throw _
  | conditionArgument :: criterionArgument :: more =>
    refine coincide_ite (fun _ => coincide_throw _) fun _ => ?_
    refine Coincide.bind (P := S) (coincide_liftM fun r hr => ?_) fun condition hc => ?_
    · exact (has _ (by simp)).range r (rangeArgument_eq_ok hr)
    refine Coincide.bind (P := S) (coincide_liftM fun r hr => ?_) fun values hv => ?_
    · cases more with
      | nil =>
        cases hr
        exact hc
      | cons valueArgument _ => exact (has valueArgument (by simp)).range r (rangeArgument_eq_ok hr)
    refine coincide_ite (fun _ => coincide_throw _) fun sameRows => ?_
    refine (has criterionArgument (by simp)).value.bind fun value _ => ?_
    refine Coincide.bind (P := fun _ => True) (coincide_liftM fun _ _ => trivial) ?_
    intro criterion _
    refine (coincide_tally h f hc hv (by simpa using sameRows) criterion).bind fun tally _ => ?_
    have result (x : Float) : (Token.ofNumber x).Within S := (Token.isResult_ofNumber x).within
    cases f with
    | countIf => exact coincide_pure (result _)
    | sumIf => exact coincide_pure (result _)
    | averageIf =>
      exact coincide_ite (fun _ => coincide_throw _) fun _ => coincide_pure (result _)

theorem coincide_regexMatch (h : scope.AgreesOn S p scope') (has : ∀ a ∈ as, a.Confined p S) :
    Coincide p (Token.Within S) (scope.regexMatch as) (scope'.regexMatch as) := by
  unfold Scope.regexMatch
  rw [h.matcher]
  match as with
  | [text, pattern] =>
    refine (has text (by simp)).value.bind fun t _ => ?_
    refine coincide_ite (fun _ => coincide_throw _) fun _ => ?_
    refine (has pattern (by simp)).value.bind fun p _ => ?_
    refine coincide_ite (fun _ => coincide_throw _) fun _ => ?_
    cases scope.matcher.search? p.textValue t.textValue with
    | none => exact coincide_throw _
    | some found => exact coincide_pure (Token.isResult_ofLogical found).within
  | [] => exact coincide_throw _
  | [_] => exact coincide_throw _
  | _ :: _ :: _ :: _ => exact coincide_throw _

theorem coincide_choose (has : ∀ a ∈ as, a.Confined p S) :
    Coincide p (Token.Within S) (choose as) (choose as) := by
  unfold choose
  split
  next test ifTrue ifFalse =>
    refine (has test (by simp)).holds.bind fun holds _ => ?_
    cases holds with
    | true => exact (has ifTrue (by simp)).value
    | false => exact (has ifFalse (by simp)).value
  · exact coincide_throw _

/-- A call does not tell apart scopes that agree. -/
theorem coincide_call (h : scope.AgreesOn S p scope') (has : ∀ a ∈ as, a.Confined p S)
    (name : Text) :
    Coincide p (Token.Within S) (scope.call name as) (scope'.call name as) := by
  unfold Scope.call
  split
  · exact coincide_fold h has _
  · exact coincide_average h has
  · exact coincide_conditional h has _
  · exact coincide_regexMatch h has
  · exact coincide_choose has
  · exact coincide_throw _

end Calls

/-! ## Requests -/

theorem Scope.Pushes.queries {request : Request} (h : scope.Pushes S request) :
    scope.Queries request := by
  cases h with
  | query connected _ _ _ _ _ => exact ⟨by simp [connected], _, _, rfl⟩

/-- A call asks for no more than its arguments and queries of its own. -/
theorem asks_call (scope : Scope) {as : List Argument} (h : ∀ a ∈ as, a.Asks scope.Queries)
    (name : Text) : (scope.call name as).Asks scope.Queries := by
  have agrees : scope.AgreesOn (fun _ => True) scope.Queries scope :=
    Scope.agreesOn_refl fun _ pushed => pushed.queries
  refine (coincide_call agrees (fun a ha => ⟨fun _ _ => trivial, ?_, ?_⟩) name).asks
  · exact ⟨rfl, (h a ha).value, (yields_true _).mono fun _ _ _ _ _ => trivial⟩
  · exact ⟨rfl, (h a ha).holds, yields_true _⟩

end JoinSheet
