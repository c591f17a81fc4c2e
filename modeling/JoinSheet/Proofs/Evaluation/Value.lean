import JoinSheet.Proofs.Evaluation.Confinement
import JoinSheet.Proofs.Evaluation.Expression

/-!
# Values of expressions

The value of an expression can take the place of the expression, and all that is asked of the
database for it is queries.

## Main results

* `Expression.ensures_value` — the value of an expression is one by itself.
* `Expression.asks_value` — what is asked for the value of an expression.
-/

namespace JoinSheet

open JoinSheet.Action

section Results

variable (scope : Scope) {answers : Answers}

theorem ensures_decideBy {test : Action Bool} {others : List Argument}
    (h : ∀ a ∈ others, Ensures answers Token.IsResult (a.value ())) :
    Ensures answers Token.IsResult (decideBy test others) := by
  unfold decideBy
  split
  next ifTrue ifFalse =>
    refine ensures_bind fun holds _ => ?_
    exact ensures_ite (fun _ => h ifTrue (by simp)) fun _ => h ifFalse (by simp)
  · exact ensures_throw _

theorem ensures_combine (op : Arithmetic) {left right : Action Token} :
    Ensures answers Token.IsResult (do
      let x ← left
      let y ← right
      op.combine x y) :=
  ensures_bind fun _ _ => ensures_bind fun _ _ => ensures_liftM fun _ => isResult_of_combine

theorem ensures_applySign (sign : Token) {value : Action Token}
    (h : Ensures answers Token.IsResult value) :
    Ensures answers Token.IsResult (do applySign sign (← value)) :=
  ensures_bind fun x hx => ensures_liftM fun _ => isResult_of_applySign (h x hx)

mutual

theorem Expression.ensures_value :
    (e : Expression) → Ensures answers Token.IsResult (e.value scope)
  | .signed sign rest => ensures_applySign sign.token rest.ensures_value
  | .sum s => s.ensures_value

theorem Summation.ensures_value :
    (s : Summation) → Ensures answers Token.IsResult (s.value scope)
  | .term t => t.ensures_value
  | .more _ op _ _ => ensures_combine op

theorem Term.ensures_value {p : Place} :
    (t : Term p) → Ensures answers Token.IsResult (t.value scope)
  | .factor f => f.ensures_value
  | .more _ op _ _ => ensures_combine op

theorem Factor.ensures_value {p : Place} :
    (f : Factor p) → Ensures answers Token.IsResult (f.value scope)
  | .atom a => a.ensures_value
  | .signed sign f => ensures_applySign sign.token f.ensures_value

theorem Atom.ensures_value : (a : Atom) → Ensures answers Token.IsResult (a.value scope)
  | .operand t isOperand => ensures_liftM fun _ => isResult_of_operand isOperand
  | .group e => e.ensures_value
  | .call name arguments => by
    have results := arguments.ensures_values
    rw [Atom.value]
    refine ensures_ite (fun _ => ?_) fun _ => ensures_call results name.upper
    split
    next test others whole =>
      refine ensures_decideBy fun a ha => results a ?_
      rw [whole]
      exact List.mem_cons_of_mem _ ha
    · exact ensures_throw _
  | .compare _ _ _ _ _ arguments => ensures_decideBy arguments.ensures_values

theorem Arguments.ensures_values :
    (as : Arguments) → ∀ a ∈ as.values scope, Ensures answers Token.IsResult (a.value ())
  | .nil => by simp [Arguments.values]
  | .cons e rest => by
    rw [Arguments.values]
    exact List.forall_mem_cons.2 ⟨e.ensures_value, rest.ensures_values⟩

end

end Results

section Requests

variable (scope : Scope)

theorem asks_decideBy {test : Action Bool} {others : List Argument}
    (ht : test.Asks scope.Queries) (h : ∀ a ∈ others, a.Asks scope.Queries) :
    (decideBy test others).Asks scope.Queries := by
  unfold decideBy
  split
  next ifTrue ifFalse =>
    refine asks_bind ht fun holds => ?_
    exact asks_ite (fun _ => (h ifTrue (by simp)).value) fun _ => (h ifFalse (by simp)).value
  · exact asks_throw _

theorem asks_combine (op : Arithmetic) {left right : Action Token} {p : Request → Prop}
    (hl : left.Asks p) (hr : right.Asks p) :
    (do
      let x ← left
      let y ← right
      op.combine x y : Action Token).Asks p :=
  asks_bind hl fun _ => asks_bind hr fun _ => asks_liftM _

theorem asks_ofValue {range? : Option (Except Error Reference)} {value : Action Token}
    {p : Request → Prop} (h : value.Asks p) : (Argument.ofValue range? fun _ => value).Asks p :=
  ⟨h, asks_bind h fun _ => asks_liftM _⟩

mutual

theorem Expression.asks_value : (e : Expression) → (e.value scope).Asks scope.Queries
  | .signed _ rest => asks_bind rest.asks_value fun _ => asks_liftM _
  | .sum s => s.asks_value

theorem Summation.asks_value : (s : Summation) → (s.value scope).Asks scope.Queries
  | .term t => t.asks_value
  | .more left op _ right => asks_combine op left.asks_value right.asks_value

theorem Term.asks_value {p : Place} : (t : Term p) → (t.value scope).Asks scope.Queries
  | .factor f => f.asks_value
  | .more left op _ right => asks_combine op left.asks_value right.asks_value

theorem Factor.asks_value {p : Place} : (f : Factor p) → (f.value scope).Asks scope.Queries
  | .atom a => a.asks_value
  | .signed _ f => asks_bind f.asks_value fun _ => asks_liftM _

theorem Atom.asks_value : (a : Atom) → (a.value scope).Asks scope.Queries
  | .operand _ _ => asks_liftM _
  | .group e => e.asks_value
  | .call name arguments => by
    have requests := arguments.asks_values
    rw [Atom.value]
    refine asks_ite (fun _ => ?_) fun _ => asks_call scope requests name.upper
    split
    next test others whole =>
      rw [whole] at requests
      obtain ⟨first, rest⟩ := List.forall_mem_cons.1 requests
      exact asks_decideBy scope first.holds rest
    · exact asks_throw _
  | .compare _ _ left _ right arguments =>
    asks_decideBy scope
      (asks_bind left.asks_value fun _ => asks_bind right.asks_value fun _ => asks_liftM _)
      arguments.asks_values

theorem Arguments.asks_values :
    (as : Arguments) → ∀ a ∈ as.values scope, a.Asks scope.Queries
  | .nil => by simp [Arguments.values]
  | .cons e rest => by
    rw [Arguments.values]
    exact List.forall_mem_cons.2 ⟨asks_ofValue e.asks_value, rest.asks_values⟩

end

end Requests

end JoinSheet
