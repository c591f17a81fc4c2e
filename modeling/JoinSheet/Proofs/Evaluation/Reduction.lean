import JoinSheet.Evaluation.Reduce
import JoinSheet.Proofs.Evaluation.Call

/-!
# Steps of a reduction

The outcome of a reduction by what its rules find. Each rule is described once, by the cut that it
contracts; how many tokens are left is no longer mentioned.

## Main definitions

* `Scope.contracted` — the tokens after one contraction.
* `Scope.argument` — the argument that tokens are.

## Main results

* `Scope.contracted_of_sign`, `Scope.contracted_of_group`, `Scope.contracted_of_call`,
  `Scope.contracted_of_operator` — what each rule does.
-/

namespace JoinSheet

namespace Scope

open JoinSheet.Action

variable (scope : Scope) (answers : Answers)

/-! ## The reduction without its bound -/

/-- Any bound that is large enough is as good as any other. -/
theorem reduceWithin_eq {m n : Nat} {tokens : List Token} (hm : tokens.length ≤ m)
    (hn : tokens.length ≤ n) :
    scope.reduceWithin m tokens hm = scope.reduceWithin n tokens hn := by
  induction m generalizing n tokens with
  | zero =>
    match tokens, hm with
    | [], _ => cases n <;> rfl
  | succ m ih =>
    match tokens, n with
    | [], n => cases n <;> rfl
    | [_], n + 1 => rfl
    | first :: second :: rest, n + 1 =>
      rw [reduceWithin, reduceWithin]
      split
      · rw [ih]
      · congr 1
        · exact congrArg _ (funext fun part => ih _ _)
        · exact funext fun next => ih _ _

@[simp] theorem outcome_reduce_singleton (t : Token) :
    outcome answers (scope.reduce [t]) = (scope.operand t).toOption := rfl

/-- A sign at the start applies to the value of all that follows. -/
theorem reduce_of_sign {first : Token} (h : first.kind = .prefixOp) (second : Token)
    (rest : List Token) :
    scope.reduce (first :: second :: rest) = (do
      let value ← scope.reduce (second :: rest)
      applySign first value) := by
  rw [reduce]
  simp only [List.length_cons]
  rw [reduceWithin, if_pos h]
  rfl

/-- The tokens after one contraction. -/
def contracted (tokens : List Token) : Option (List Token) :=
  (outcome answers (scope.contract tokens fun part => scope.reduce part.1)).map Subtype.val

theorem length_lt_of_contracted {tokens next : List Token}
    (h : scope.contracted answers tokens = some next) : next.length < tokens.length := by
  obtain ⟨part, -, rfl⟩ := Option.map_eq_some_iff.1 h
  exact part.2

/-- Without a sign at the start two or more tokens are contracted once. -/
theorem reduce_of_contract {first : Token} (h : first.kind ≠ .prefixOp) {rest : List Token}
    (more : rest ≠ []) : scope.reduce (first :: rest) = (do
      let next ← scope.contract (first :: rest) fun part => scope.reduce part.1
      scope.reduce next.1) := by
  obtain ⟨second, rest, rfl⟩ := List.exists_cons_of_ne_nil more
  rw [reduce]
  simp only [List.length_cons]
  rw [reduceWithin, if_neg h]
  congr 1
  · exact congrArg _ (funext fun part => scope.reduceWithin_eq _ _)
  · exact funext fun part => scope.reduceWithin_eq _ _

theorem outcome_reduce_of_contracted {first : Token} (h : first.kind ≠ .prefixOp) (second : Token)
    (rest : List Token) :
    outcome answers (scope.reduce (first :: second :: rest)) =
      (scope.contracted answers (first :: second :: rest)).bind fun next =>
        outcome answers (scope.reduce next) := by
  rw [scope.reduce_of_contract h (List.cons_ne_nil _ _), outcome_bind, contracted, Option.bind_map]
  rfl

/-! ## Arguments -/

/-- The argument that tokens are. -/
def argument (tokens : List Token) : Argument :=
  .ofPart (fun part : Part (tokens.length + 1) => scope.reduce part.1)
    ⟨tokens, Nat.lt_succ_self _⟩

theorem ofPart_reduce {n : Nat} (part : Part n) :
    Argument.ofPart (fun part => scope.reduce part.1) part = scope.argument part.1 := by
  unfold argument Argument.ofPart condition
  rfl

theorem map_argumentParts {n : Nat} (inside : Part n) :
    (argumentParts inside).map (Argument.ofPart fun part => scope.reduce part.1) =
      (splitArguments inside.1).map scope.argument := by
  simp only [argumentParts, List.map_map, Function.comp_def, ofPart_reduce]
  exact List.attach_map_val

/-! ## The rules -/

theorem contract_eq_or (tokens : List Token) (eval : Evaluator tokens.length) :
    scope.contract tokens eval =
      ((scope.signRule tokens).or ((groupRule tokens eval).or ((scope.callRule tokens eval).or
        ((scope.operatorRule true tokens).or (scope.operatorRule false tokens))))).getD
          (throw (.eval (.malformed (Token.spell tokens)))) := by
  simp [contract]

variable {scope answers} {tokens before after inside : List Token}
  {sign value opener closer : Token}

theorem signRule_eq_none (h : Cut.first? signsValue tokens = none) :
    scope.signRule tokens = none := by
  unfold signRule
  split
  next found => cases h.symm.trans found
  next => rfl

theorem groupRule_eq_none (h : Cut.first? opensGroup tokens = none)
    (eval : Evaluator tokens.length) : groupRule tokens eval = none := by
  unfold groupRule
  split
  next => rfl
  next found => cases h.symm.trans found

theorem callRule_eq_none (h : Cut.first? opensCall tokens = none)
    (eval : Evaluator tokens.length) : scope.callRule tokens eval = none := by
  unfold callRule
  split
  next => rfl
  next found => cases h.symm.trans found

theorem operatorRule_eq_none {factors : Bool} (h : Cut.first? (operates factors) tokens = none) :
    scope.operatorRule factors tokens = none := by
  unfold operatorRule
  split
  next => rfl
  next found => cases h.symm.trans found

/-- A sign before a value is contracted first. -/
theorem contracted_of_sign
    (h : Cut.first? signsValue tokens = some ⟨before, sign, value :: after⟩) :
    scope.contracted answers tokens =
      (scope.operand value).toOption.bind fun v =>
        (applySign sign v).toOption.map fun signed => before ++ signed :: after := by
  have shorter (signed : Token) : (before ++ signed :: after).length < tokens.length := by
    rw [← Cut.whole_of_first? h]
    simp [Cut.whole]
  have rule : scope.signRule tokens = some (do
      let v ← scope.operand value
      let signed ← applySign sign v
      return ⟨before ++ signed :: after, shorter signed⟩) := by
    unfold signRule
    split
    next found =>
      cases h.symm.trans found
      rfl
    next missed => exact absurd h (missed _ _ _ _)
  rw [contracted, contract_eq_or, rule, Option.some_or, Option.getD_some]
  simp [Option.map_bind, Function.comp_def]

theorem contractGroup_bind {α : Type} {cut : Cut} (whole : cut.whole = tokens)
    (closed : Cut.closing? 0 cut.after = some ⟨inside, closer, after⟩)
    (f : Part tokens.length → Action Token) (shorter : inside.length < tokens.length)
    (later : List Token → Action α) :
    (do let next ← contractGroup cut whole f; later next.1) =
      (do let v ← f ⟨inside, shorter⟩; later (cut.before ++ v :: after)) := by
  unfold contractGroup
  split
  next missed => simp [closed] at missed
  next found =>
    cases closed.symm.trans found
    simp

theorem outcome_contractGroup {cut : Cut} (whole : cut.whole = tokens)
    (closed : Cut.closing? 0 cut.after = some ⟨inside, closer, after⟩)
    (f : Part tokens.length → Action Token) (shorter : inside.length < tokens.length) :
    (outcome answers (contractGroup cut whole f)).map Subtype.val =
      (outcome answers (f ⟨inside, shorter⟩)).map fun v => cut.before ++ v :: after := by
  have contracted := congrArg (outcome answers) (contractGroup_bind whole closed f shorter pure)
  simpa [Option.map_eq_bind, Function.comp_def] using contracted

/-- Without such a sign the first group is replaced by its value. -/
theorem contracted_of_group (noSign : Cut.first? signsValue tokens = none)
    (h : Cut.first? opensGroup tokens = some ⟨before, opener, inside ++ closer :: after⟩)
    (closed : Cut.closing? 0 (inside ++ closer :: after) = some ⟨inside, closer, after⟩) :
    scope.contracted answers tokens =
      (outcome answers (scope.reduce inside)).map fun v => before ++ v :: after := by
  have shorter : inside.length < tokens.length := by
    rw [← Cut.whole_of_first? h]
    simp [Cut.whole]
    omega
  have rule : groupRule tokens (fun part => scope.reduce part.1) =
      some (contractGroup _ (Cut.whole_of_first? h) fun part => scope.reduce part.1) := by
    unfold groupRule
    split
    next missed => cases h.symm.trans missed
    next found =>
      cases h.symm.trans found
      rfl
  rw [contracted, contract_eq_or, signRule_eq_none noSign, Option.none_or, rule, Option.some_or,
    Option.getD_some, outcome_contractGroup _ closed _ shorter]

/-- The rule for calls applies to the first one. -/
theorem callRule_of_first? {cut : Cut} (h : Cut.first? opensCall tokens = some cut) {name : Text}
    (named : cut.token.functionName? = some name) :
    scope.callRule tokens (fun part => scope.reduce part.1) =
      some (contractGroup cut (Cut.whole_of_first? h) fun inside =>
        scope.call name.upper ((splitArguments inside.1).map scope.argument)) := by
  unfold callRule
  split
  next missed => cases h.symm.trans missed
  next found =>
    cases h.symm.trans found
    simp only [named, Option.getD_some, map_argumentParts]

/-- Without a group the first call is replaced by its result. -/
theorem contracted_of_call (noSign : Cut.first? signsValue tokens = none)
    (noGroup : Cut.first? opensGroup tokens = none)
    (h : Cut.first? opensCall tokens = some ⟨before, opener, inside ++ closer :: after⟩)
    (closed : Cut.closing? 0 (inside ++ closer :: after) = some ⟨inside, closer, after⟩)
    {name : Text} (named : opener.functionName? = some name) :
    scope.contracted answers tokens =
      (outcome answers (scope.call name.upper ((splitArguments inside).map scope.argument))).map
        fun v => before ++ v :: after := by
  have shorter : inside.length < tokens.length := by
    rw [← Cut.whole_of_first? h]
    simp [Cut.whole]
    omega
  rw [contracted, contract_eq_or, signRule_eq_none noSign, groupRule_eq_none noGroup,
    Option.none_or, Option.none_or, callRule_of_first? h named, Option.some_or, Option.getD_some,
    outcome_contractGroup _ closed _ shorter]

/-- Without a call the first operator is applied, products before sums. -/
theorem contracted_of_operator (noSign : Cut.first? signsValue tokens = none)
    (noGroup : Cut.first? opensGroup tokens = none) (noCall : Cut.first? opensCall tokens = none)
    {factors : Bool} (noProduct : factors = false → Cut.first? (operates true) tokens = none)
    {left operator right : Token}
    (h : Cut.first? (operates factors) tokens = some ⟨before ++ [left], operator, right :: after⟩)
    {op : Arithmetic} (known : Arithmetic.ofToken? operator = some op) :
    scope.contracted answers tokens =
      (scope.combine op left right).toOption.map fun v => before ++ v :: after := by
  have shorter (v : Token) : (before ++ v :: after).length < tokens.length := by
    rw [← Cut.whole_of_first? h]
    simp [Cut.whole]
  have rule : scope.operatorRule factors tokens = some (do
      let v ← scope.combine op left right
      return ⟨before ++ v :: after, shorter v⟩) := by
    unfold operatorRule
    split
    next missed => cases h.symm.trans missed
    next found =>
      cases h.symm.trans found
      simp only [List.getLast?_append, List.getLast?_singleton, Option.some_or, known,
        List.dropLast_concat]
  have chosen : (scope.operatorRule true tokens).or (scope.operatorRule false tokens) =
      scope.operatorRule factors tokens := by
    cases factors with
    | true => rw [rule, Option.some_or]
    | false => rw [operatorRule_eq_none (noProduct rfl), Option.none_or]
  rw [contracted, contract_eq_or, signRule_eq_none noSign, groupRule_eq_none noGroup,
    callRule_eq_none noCall, Option.none_or, Option.none_or, Option.none_or, chosen, rule,
    Option.getD_some]
  simp [Function.comp_def]

end Scope

end JoinSheet
