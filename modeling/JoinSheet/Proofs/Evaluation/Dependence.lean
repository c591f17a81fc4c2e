import JoinSheet.Proofs.Evaluation.Confinement
import JoinSheet.Proofs.Evaluation.Reduction

/-!
# What evaluation depends on

On two sheets that agree on the references of a formula its evaluation is one and the same dialogue,
and all that it asks is aggregates that the references lead to. Both are carried through every rule
at once, because what a rule leaves has to be free of other references for the next one.

## Main definitions

* `EvaluatorsCoincide` — evaluators that do the same for parts that keep to some references.

## Main statements

* `Scope.coincide_contract`, `Scope.coincide_evaluate` — a contraction and an evaluation do not tell
  apart scopes that agree.
* `Scope.evaluate_eq_of_agreesOn` — an evaluation is the same on sheets that agree.
* `Scope.asks_evaluate`, `Scope.asks_reduce` — what is asked.
-/

namespace JoinSheet

open JoinSheet.Action

variable {S : Reference → Prop} {p : Request → Prop} {scope scope' : Scope}

/-! ## Conditions and arguments -/

/-- The evaluators do the same for parts that keep to the references in `S`. -/
def EvaluatorsCoincide (p : Request → Prop) (S : Reference → Prop) {n : Nat}
    (eval eval' : Evaluator n) : Prop :=
  ∀ part : Part n, (∀ t ∈ part.1, t.Within S) →
    Coincide p (Token.Within S) (eval part) (eval' part)

section Arguments

variable {n : Nat} {eval eval' : Evaluator n}

theorem coincide_condition (he : EvaluatorsCoincide p S eval eval') {part : Part n}
    (within : ∀ t ∈ part.1, t.Within S) :
    Coincide p (fun _ => True) (condition eval part) (condition eval' part) := by
  unfold condition
  split
  · exact (he part within).bind fun v _ => coincide_liftM fun _ _ => trivial
  next cut found =>
    rw [← Cut.whole_of_first? found] at within
    refine coincide_ite (fun _ => coincide_throw _) fun _ => ?_
    refine (he _ fun t ht => within t (by simp [Cut.whole, ht])).bind fun left _ => ?_
    refine (he _ fun t ht => within t (by simp [Cut.whole, ht])).bind fun right _ => ?_
    exact coincide_liftM fun _ _ => trivial

theorem ofPart_eq (he : EvaluatorsCoincide p S eval eval') {part : Part n}
    (within : ∀ t ∈ part.1, t.Within S) :
    Argument.ofPart eval part = Argument.ofPart eval' part := by
  unfold Argument.ofPart
  rw [(he part within).eq, (coincide_condition he within).eq]

theorem confined_ofPart (he : EvaluatorsCoincide p S eval eval') {part : Part n}
    (within : ∀ t ∈ part.1, t.Within S) : (Argument.ofPart eval part).Confined p S where
  range r hr := by
    obtain ⟨tokens, short⟩ := part
    simp only [Argument.ofPart] at hr
    unfold loneRange? at hr
    split at hr
    next only =>
      split at hr
      next range => exact within only (by simp) range r (Option.some.inj hr)
      next => cases hr
    next => cases hr
  value := ⟨rfl, (he part within).asks, (he part within).yields⟩
  holds := ⟨rfl, (coincide_condition he within).asks, (coincide_condition he within).yields⟩

end Arguments

theorem mem_of_mem_splitArgumentsFrom {depth : Nat} {tokens part : List Token} {t : Token}
    (h : part ∈ splitArgumentsFrom depth tokens) (ht : t ∈ part) : t ∈ tokens := by
  induction tokens generalizing depth part with
  | nil =>
    rw [splitArgumentsFrom, List.mem_singleton] at h
    rwa [h] at ht
  | cons first rest ih =>
    simp only [splitArgumentsFrom] at h
    generalize (if first.isOpening = true then depth + 1 else
      if first.isClosing = true then depth - 1 else depth) = d at h
    split at h
    · obtain rfl | h := List.mem_cons.1 h
      · cases ht
      · exact List.mem_cons_of_mem _ (ih h ht)
    · split at h
      · rw [List.mem_singleton.1 h, List.mem_singleton] at ht
        exact ht ▸ List.mem_cons_self
      next head parts split =>
        obtain rfl | h := List.mem_cons.1 h
        · obtain rfl | ht := List.mem_cons.1 ht
          · exact List.mem_cons_self
          · exact List.mem_cons_of_mem _ (ih (split ▸ List.mem_cons_self) ht)
        · exact List.mem_cons_of_mem _ (ih (split ▸ List.mem_cons_of_mem _ h) ht)

theorem mem_of_mem_splitArguments {tokens part : List Token} {t : Token}
    (h : part ∈ splitArguments tokens) (ht : t ∈ part) : t ∈ tokens := by
  unfold splitArguments at h
  split at h
  · cases h
  · exact mem_of_mem_splitArgumentsFrom h ht

/-! ## Contractions -/

namespace Scope

/-- The rules do the same, and what they leave keeps to the references in `S`. -/
abbrev RulesCoincide (p : Request → Prop) (S : Reference → Prop) {tokens : List Token}
    (a b : Contraction tokens) : Prop :=
  Option.Rel (Coincide p fun next => ∀ t ∈ next.1, t.Within S) a b

section Contractions

variable {tokens : List Token} {eval eval' : Evaluator tokens.length}

theorem RulesCoincide.or {a a' b b' : Contraction tokens} (ha : RulesCoincide p S a a')
    (hb : RulesCoincide p S b b') : RulesCoincide p S (a.or b) (a'.or b') := by
  cases ha with
  | none => exact hb
  | some same => exact .some same

theorem coincide_signRule (h : scope.AgreesOn S p scope') (within : ∀ t ∈ tokens, t.Within S) :
    RulesCoincide p S (scope.signRule tokens) (scope'.signRule tokens) := by
  unfold signRule
  split
  next before sign value after found =>
    have whole := Cut.whole_of_first? found
    have mem (t : Token) (ht : t ∈ before ++ value :: after) : t ∈ tokens := by
      rw [← whole]
      simp only [Cut.whole, List.mem_append, List.mem_cons] at ht ⊢
      tauto
    refine .some ?_
    refine (coincide_operand h (within value (mem value (by simp)))).bind fun v hv => ?_
    refine Coincide.bind (coincide_liftM fun w hw => within_of_applySign hv hw) fun w hw => ?_
    refine coincide_pure fun t ht => ?_
    obtain ht | rfl | ht := by simpa using ht
    · exact within t (mem t (by simp [ht]))
    · exact hw
    · exact within t (mem t (by simp [ht]))
  next => exact .none

theorem coincide_contractGroup {cut : Cut} (whole : cut.whole = tokens)
    (within : ∀ t ∈ tokens, t.Within S) {f f' : Part tokens.length → Action Token}
    (hf : EvaluatorsCoincide p S f f') :
    Coincide p (fun next => ∀ t ∈ next.1, t.Within S) (contractGroup cut whole f)
      (contractGroup cut whole f') := by
  unfold contractGroup
  split
  · exact coincide_throw _
  next inside close after closed =>
    have rest := Cut.whole_of_closing? closed
    have mem (t : Token) (ht : t ∈ cut.before ∨ t ∈ inside ∨ t ∈ after) : t ∈ tokens := by
      rw [← whole, Cut.whole, ← rest]
      simp only [Cut.whole, List.mem_append, List.mem_cons]
      tauto
    refine (hf _ fun t ht => within t (mem t (.inr (.inl ht)))).bind fun v hv => ?_
    refine coincide_pure fun t ht => ?_
    obtain ht | rfl | ht := by simpa using ht
    · exact within t (mem t (.inl ht))
    · exact hv
    · exact within t (mem t (.inr (.inr ht)))

theorem coincide_groupRule (he : EvaluatorsCoincide p S eval eval')
    (within : ∀ t ∈ tokens, t.Within S) :
    RulesCoincide p S (groupRule tokens eval) (groupRule tokens eval') := by
  unfold groupRule
  split
  next => exact .none
  next found => exact .some (coincide_contractGroup _ within he)

theorem coincide_callRule (h : scope.AgreesOn S p scope')
    (he : EvaluatorsCoincide p S eval eval') (within : ∀ t ∈ tokens, t.Within S) :
    RulesCoincide p S (scope.callRule tokens eval) (scope'.callRule tokens eval') := by
  unfold callRule
  split
  next => exact .none
  next cut found =>
    refine .some (coincide_contractGroup _ within fun inside keeps => ?_)
    have parts : ∀ part ∈ argumentParts inside, ∀ t ∈ part.1, t.Within S := by
      intro part hp t ht
      obtain ⟨⟨tokens, mem⟩, -, rfl⟩ := List.mem_map.1 hp
      exact keeps t (mem_of_mem_splitArguments mem ht)
    have same : (argumentParts inside).map (Argument.ofPart eval) =
        (argumentParts inside).map (Argument.ofPart eval') :=
      List.map_congr_left fun part hp => ofPart_eq he (parts part hp)
    rw [← same]
    refine coincide_call h (fun a ha => ?_) _
    obtain ⟨part, hp, rfl⟩ := List.mem_map.1 ha
    exact confined_ofPart he (parts part hp)

theorem coincide_operatorRule (h : scope.AgreesOn S p scope') (within : ∀ t ∈ tokens, t.Within S)
    (factors : Bool) :
    RulesCoincide p S (scope.operatorRule factors tokens)
      (scope'.operatorRule factors tokens) := by
  unfold operatorRule
  split
  next => exact .none
  next before operator after found =>
    have whole := Cut.whole_of_first? found
    have mem (t : Token) (ht : t ∈ before ∨ t ∈ after) : t ∈ tokens := by
      rw [← whole]
      simp only [Cut.whole, List.mem_append, List.mem_cons]
      tauto
    cases known : Arithmetic.ofToken? operator with
    | none =>
      dsimp only
      split <;> exact .some (coincide_throw _)
    | some op =>
      dsimp only
      split
      next left right after _ _ last =>
        refine .some ((coincide_combine h op ?_ ?_).bind fun v hv => ?_)
        · exact within left (mem left (.inl (List.mem_of_getLast? last)))
        · exact within right (mem right (.inr (by simp)))
        · refine coincide_pure fun t ht => ?_
          obtain ht | rfl | ht := by simpa using ht
          · exact within t (mem t (.inl (List.dropLast_subset _ ht)))
          · exact hv
          · exact within t (mem t (.inr (by simp [ht])))
      next => exact .some (coincide_throw _)

/-- A contraction does not tell apart scopes that agree. -/
theorem coincide_contract (h : scope.AgreesOn S p scope')
    (he : EvaluatorsCoincide p S eval eval') (within : ∀ t ∈ tokens, t.Within S) :
    Coincide p (fun next => ∀ t ∈ next.1, t.Within S) (scope.contract tokens eval)
      (scope'.contract tokens eval') := by
  have rules := (coincide_signRule h within).or <| (coincide_groupRule he within).or <|
    (coincide_callRule h he within).or <|
      (coincide_operatorRule h within true).or (coincide_operatorRule h within false)
  rw [contract_eq_or, contract_eq_or]
  generalize Option.or _ _ = chosen at rules ⊢
  generalize Option.or _ _ = chosen' at rules ⊢
  cases rules with
  | none => exact coincide_throw _
  | some same => exact same

end Contractions

/-! ## Reductions -/

theorem coincide_reduceWithin (h : scope.AgreesOn S p scope') (n : Nat) {tokens : List Token}
    (short : tokens.length ≤ n) (within : ∀ t ∈ tokens, t.Within S) :
    Coincide p (Token.Within S) (scope.reduceWithin n tokens short)
      (scope'.reduceWithin n tokens short) := by
  induction n generalizing tokens with
  | zero =>
    match tokens, short with
    | [], _ => exact coincide_throw _
  | succ n ih =>
    match tokens with
    | [] => exact coincide_throw _
    | [only] => exact coincide_operand h (within only (by simp))
    | first :: second :: rest =>
      rw [reduceWithin, reduceWithin]
      refine coincide_ite (fun _ => ?_) fun _ => ?_
      · refine (ih _ fun t ht => within t (List.mem_cons_of_mem _ ht)).bind fun v hv => ?_
        exact coincide_liftM fun w hw => within_of_applySign hv hw
      · refine (coincide_contract h (fun part hp => ih _ hp) within).bind fun next hn => ?_
        exact ih _ hn

/-- An evaluation does not tell apart scopes that agree on the references of its tokens. -/
theorem coincide_evaluate {tokens : List Token} (h : scope.AgreesOn (Token.Refers tokens) p scope') :
    Coincide p (Token.Within (Token.Refers tokens)) (scope.evaluate tokens)
      (scope'.evaluate tokens) :=
  coincide_reduceWithin h _ _ fun t ht range _ read =>
    ⟨t, (List.mem_filter.1 ht).1, range, read⟩

/-- On sheets that agree on the references of its tokens, an evaluation is the same. -/
theorem evaluate_eq_of_agreesOn [Matcher] {s s' : Sheet} {connection : Option Dialect}
    {tokens : List Token} (h : s.AgreesOn (Token.Refers tokens) s') :
    Scope.evaluate ⟨s', connection⟩ tokens = Scope.evaluate ⟨s, connection⟩ tokens := by
  have agree : Scope.AgreesOn (Token.Refers tokens) (fun _ => True) ⟨s, connection⟩
    ⟨s', connection⟩ := ⟨rfl, rfl, h, fun _ _ => trivial⟩
  exact (coincide_evaluate agree).eq.symm

/-- All that an evaluation asks is aggregates that the references of its tokens lead to. -/
theorem asks_evaluate (scope : Scope) (tokens : List Token) :
    (scope.evaluate tokens).Asks (scope.Pushes (Token.Refers tokens)) :=
  (coincide_evaluate (agreesOn_refl fun _ pushed => pushed)).asks

/-- All that a reduction asks of the database is queries. -/
theorem asks_reduce (tokens : List Token) : (scope.reduce tokens).Asks scope.Queries := by
  have agrees : scope.AgreesOn (fun _ => True) scope.Queries scope :=
    agreesOn_refl fun _ pushed => pushed.queries
  exact (coincide_reduceWithin agrees _ _ fun _ _ _ _ _ => trivial).asks

end Scope

end JoinSheet
