import JoinSheet.Proofs.Evaluation.Dependence
import JoinSheet.Proofs.Evaluation.Search
import JoinSheet.Proofs.Evaluation.Value
import JoinSheet.Sheet.Extra

/-!
# Precedence

Reducing the tokens of an expression amounts to evaluating the expression. While they are reduced,
the tokens of a sum always spell a chain. Each rule computes something that the chain would compute
later, and what is left spells a shorter chain with the same outcome.

## Main results

* `Chain.outcome_reduce` — the reduction of a chain has the outcome of the chain.
* `Expression.outcome_reduce` — the reduction of an expression has the outcome of its value.
* `Expression.result_evaluate` — a formula is evaluated to the value of the expression it spells.
-/

namespace JoinSheet

open JoinSheet.Action

variable {scope : Scope} {answers : Answers}

/-! ## Arguments -/

theorem condition_eq_truthValue {n : Nat} (eval : Evaluator n) {part : Part n}
    (h : Cut.first? (fun t _ => t.isComparison) part.1 = none) :
    condition eval part = (do truthValue (← eval part)) := by
  unfold condition
  split
  next => rfl
  next found => cases h.symm.trans found

theorem condition_eq_compareValues {n : Nat} (eval : Evaluator n) {part : Part n}
    {left right : List Token} {t : Token}
    (h : Cut.first? (fun t _ => t.isComparison) part.1 = some ⟨left, t, right⟩)
    (single : Cut.first? (fun t _ => t.isComparison) right = none) (shortLeft : left.length < n)
    (shortRight : right.length < n) :
    condition eval part = (do
      let x ← eval ⟨left, shortLeft⟩
      let y ← eval ⟨right, shortRight⟩
      compareValues t.text x y) := by
  unfold condition
  split
  next missed => cases h.symm.trans missed
  next found =>
    cases h.symm.trans found
    rw [if_neg (by simp [single])]

/-- An argument agrees with the expression that it spells. -/
theorem agrees_argument {e : Expression}
    (h : outcome answers (scope.reduce e.tokens) = outcome answers (e.value scope)) :
    (scope.argument e.tokens).Agrees answers (.ofValue e.reference? fun _ => e.value scope) where
  range := e.loneRange?_tokens
  value := h
  holds := by
    rw [Scope.argument, Argument.ofPart, condition_eq_truthValue _ e.skips_isComparison.eq_none]
    exact outcome_bind_congr answers h fun _ => rfl

theorem agrees_arguments {as : Arguments}
    (h : ∀ e ∈ as.toList,
      outcome answers (scope.reduce e.tokens) = outcome answers (e.value scope)) :
    List.Forall₂ (Argument.Agrees answers)
      ((as.toList.map Expression.tokens).map scope.argument) (as.values scope) := by
  rw [as.values_eq_map, List.map_map, List.forall₂_map_left_iff, List.forall₂_map_right_iff,
    List.forall₂_same]
  exact fun e he => agrees_argument (h e he)

theorem outcome_decideBy {test test' : Action Bool} {as bs : List Argument}
    (ht : outcome answers test = outcome answers test')
    (h : List.Forall₂ (Argument.Agrees answers) as bs) :
    outcome answers (decideBy test as) = outcome answers (decideBy test' bs) := by
  match h with
  | .nil => rfl
  | .cons _ .nil => rfl
  | .cons ifTrue (.cons ifFalse .nil) =>
    refine outcome_bind_congr answers ht fun holds => ?_
    cases holds with
    | true => exact ifTrue.value
    | false => exact ifFalse.value
  | .cons _ (.cons _ (.cons _ _)) => rfl

/-- `IF` decides by its first argument. -/
theorem choose_eq_decideBy (test : Argument) (others : List Argument) :
    choose (test :: others) = decideBy (test.holds ()) others := by
  match others with
  | [] => rfl
  | [_] => rfl
  | [_, _] => rfl
  | _ :: _ :: _ :: _ => rfl

theorem call_if (scope : Scope) (arguments : List Argument) :
    scope.call "IF" arguments = choose arguments := rfl

/-- A call of its tokens is one of its arguments, if these are evaluated as they should. -/
theorem Atom.outcome_call {a : Atom} {name : Text} {inside : List Token}
    (parts : a.callParts? = some (name, inside))
    (h : ∀ e : Expression, e.tokens.length ≤ inside.length →
      outcome answers (scope.reduce e.tokens) = outcome answers (e.value scope)) :
    outcome answers (scope.call name.upper ((splitArguments inside).map scope.argument)) =
      outcome answers (a.value scope) := by
  have short {as : Arguments} (parts : List (List Token))
      (split : splitArguments inside = parts ++ as.toList.map Expression.tokens) :
      ∀ e ∈ as.toList,
        outcome answers (scope.reduce e.tokens) = outcome answers (e.value scope) := by
    intro e he
    refine h e (length_le_of_mem_splitArguments ?_)
    rw [split]
    exact List.mem_append_right _ (List.mem_map_of_mem he)
  cases a with
  | operand t isOperand => cases parts
  | group e => cases parts
  | call name arguments =>
    cases parts
    have agree := agrees_arguments (short [] arguments.splitArguments_tokens)
    rw [value, arguments.splitArguments_tokens]
    split
    next isIf =>
      rw [isIf, call_if]
      cases arguments with
      | nil => rfl
      | cons e rest =>
        obtain ⟨first, rest⟩ := List.forall₂_cons.1 agree
        rw [Arguments.toList, List.map_cons, List.map_cons, choose_eq_decideBy]
        exact outcome_decideBy first.holds rest
    next => exact JoinSheet.outcome_call scope agree name.upper
  | compare name isIf left relation right arguments =>
    cases parts
    have split := arguments.splitArguments_compare left relation right
    have agree := agrees_arguments (short [_] split)
    have test : outcome answers
        ((scope.argument (left.tokens ++ relation.token :: right.tokens)).holds ()) =
        outcome answers (do
          let x ← left.value scope
          let y ← right.value scope
          compareValues relation.toText x y) := by
      rw [Scope.argument, Argument.ofPart, condition_eq_compareValues _
        (Relation.first?_isComparison left relation right) right.skips_isComparison.eq_none
        (by rw [List.length_append, List.length_cons]; omega)
        (by rw [List.length_append, List.length_cons]; omega)]
      refine outcome_bind_congr answers (h left (by simp)) fun x => ?_
      exact outcome_bind_congr answers (h right (by simp; omega)) fun y => rfl
    rw [split, isIf, call_if, List.map_cons, choose_eq_decideBy, value]
    exact outcome_decideBy test agree

/-! ## Steps -/

theorem Atom.exists_tokens (a : Atom) :
    ∃ ts, a.tokens = a.lead :: ts ∧ (ts = [] → ∃ t h, a = .operand t h) := by
  cases a with
  | operand t h => exact ⟨[], rfl, fun _ => ⟨t, h, rfl⟩⟩
  | group e => exact ⟨_, rfl, by simp⟩
  | call name arguments => exact ⟨_, rfl, by simp⟩
  | compare name isIf left relation right arguments => exact ⟨_, rfl, by simp⟩

namespace Chain

/-- Chains of fewer than `n` tokens are reduced as they should. -/
def ReducedBelow (scope : Scope) (answers : Answers) (n : Nat) : Prop :=
  ∀ chain : Chain, chain.first.signs = [] → chain.tokens.length < n →
    Action.outcome answers (scope.reduce chain.tokens) = chain.outcome scope answers

/-- Something in a chain is computed ahead and its value put in its place. If shorter chains are
reduced as they should, so is this one. `q` is what is needed of what waits for the value. -/
theorem outcome_of_contracted {front : List (SignedAtom × Arithmetic)} {here : Chain}
    (signs : List Sign) (later : List (Arithmetic × SignedAtom)) (c : Option Token)
    (q : Pending → Prop)
    (rule : scope.contracted answers (here.behind front).tokens =
      c.map fun v => frontTokens front ++ signs.map Sign.token ++ v :: laterTokens later)
    (result : ∀ v, c = some v → v.IsResult)
    (ahead : ∀ p, q p → here.outcomeFrom scope answers p = c.bind fun v =>
      (Sign.applyAll signs (some v)).bind fun y => outcomeAfter scope answers p y later)
    (initially : q {})
    (leads : ∀ x ∈ front, ∀ p y p', Pending.extend p y x.2 = some p' → q p')
    (start : (here.behind front).first.signs = []) (starts : front = [] → signs = [])
    (shorter : ReducedBelow scope answers (here.behind front).tokens.length) :
    ((scope.contracted answers (here.behind front).tokens).bind fun next =>
      Action.outcome answers (scope.reduce next)) = (here.behind front).outcome scope answers := by
  cases c with
  | none =>
    have stuck := outcomeFrom_behind (v := (none : Option Unit)) (fun _ => here) ahead leads
      initially
    rw [rule, outcome, stuck]
    rfl
  | some v =>
    have isResult := result v rfl
    let next : Chain := ⟨⟨signs, .operand v isResult.1⟩, later⟩
    have value : next.first.outcome scope answers = Sign.applyAll signs (some v) := by
      simp [next, SignedAtom.outcome, Atom.value, operand_of_isResult isResult, Except.toOption]
    have same : ∀ p, q p → here.outcomeFrom scope answers p =
        (some ()).bind fun _ => next.outcomeFrom scope answers p := by
      intro p hp
      rw [ahead p hp, Option.bind_some, Option.bind_some, outcomeFrom, value]
    have spelled : (next.behind front).tokens =
        frontTokens front ++ signs.map Sign.token ++ v :: laterTokens later := by
      rw [tokens_behind]
      simp [tokens, next, SignedAtom.tokens, Atom.tokens]
    rw [Option.map_some, ← spelled] at rule
    have noSign : (next.behind front).first.signs = [] := by
      cases front with
      | nil => exact starts rfl
      | cons x front => exact start
    rw [rule, Option.bind_some, shorter _ noSign (Scope.length_lt_of_contracted _ _ rule), outcome,
      outcome, outcomeFrom_behind (fun _ => next) same leads initially]
    rfl

/-- A chain starts with its first atom. It is a single operand, or more tokens follow. -/
theorem eq_operand_or_tokens {chain : Chain} (start : chain.first.signs = []) :
    (∃ t h, chain = ⟨⟨[], .operand t h⟩, []⟩) ∨
      ∃ second rest, chain.tokens = chain.first.atom.lead :: second :: rest := by
  obtain ⟨⟨signs, a⟩, later⟩ := chain
  cases start
  obtain ⟨ts, spelled, single⟩ := a.exists_tokens
  have whole : tokens ⟨⟨[], a⟩, later⟩ = a.lead :: (ts ++ laterTokens later) := by
    simp [tokens, SignedAtom.tokens, spelled]
  cases more : ts ++ laterTokens later with
  | nil =>
    obtain ⟨alone, last⟩ := List.append_eq_nil_iff.1 more
    obtain ⟨t, h, rfl⟩ := single alone
    cases later with
    | nil => exact .inl ⟨t, h, rfl⟩
    | cons next later => simp [laterTokens] at last
  | cons second rest => exact .inr ⟨second, rest, by rw [whole, more]⟩

/-- Expressions are reduced as they should if chains are. -/
theorem outcome_reduce_expression {n : Nat} (shorter : ReducedBelow scope answers n)
    (e : Expression) (short : e.tokens.length < n) :
    Action.outcome answers (scope.reduce e.tokens) = Action.outcome answers (e.value scope) := by
  match e with
  | .signed sign rest =>
    have isSign : sign.token.kind = .prefixOp := by cases sign <;> rfl
    obtain ⟨t, ts, spelled⟩ := List.exists_cons_of_ne_nil rest.tokens_ne_nil
    rw [Expression.tokens, spelled, scope.reduce_of_sign isSign, ← spelled, Expression.value]
    refine outcome_bind_congr answers (outcome_reduce_expression shorter rest ?_) fun _ => rfl
    rw [Expression.tokens, List.length_cons] at short
    omega
  | .sum s =>
    have spelled := s.tokens_chain []
    rw [laterTokens, List.flatMap_nil, List.append_nil] at spelled
    rw [Expression.tokens, ← spelled] at short ⊢
    rw [shorter _ (s.signs_first_chain []) short, s.outcome_chain, Expression.value]

section Steps

variable {front : List (SignedAtom × Arithmetic)} {here : Chain}

theorem step_sign (shorter : ReducedBelow scope answers (here.behind front).tokens.length)
    (start : (here.behind front).first.signs = []) (found : here.first.SignsValue)
    (before : ∀ x ∈ front, ¬ x.1.SignsValue) :
    ((scope.contracted answers (here.behind front).tokens).bind fun next =>
      Action.outcome answers (scope.reduce next)) = (here.behind front).outcome scope answers := by
  obtain ⟨⟨signs, a⟩, later⟩ := here
  obtain ⟨signed, t, isOperand, rfl⟩ := found
  obtain none | ⟨signs, sign, rfl⟩ := signs.eq_nil_or_concat
  · exact absurd none signed
  rw [List.concat_eq_append] at shorter start ⊢
  let c : Option Token := (scope.operand t).toOption.bind fun v => (applySign sign.token v).toOption
  refine outcome_of_contracted signs later c (fun _ => True) ?_ ?_ ?_ trivial
    (fun _ _ _ _ _ _ => trivial) start ?_ shorter
  · rw [Scope.contracted_of_sign (first?_signsValue before), Option.map_bind]
    rfl
  · intro v hv
    obtain ⟨x, hx, hv⟩ := Option.bind_eq_some_iff.1 hv
    exact isResult_of_applySign (isResult_of_operand isOperand (Except.toOption_eq_some.1 hx))
      (Except.toOption_eq_some.1 hv)
  · rintro p -
    rw [outcomeFrom, SignedAtom.outcome, Sign.applyAll_concat, Sign.applyAll_eq_bind,
      Option.bind_assoc]
    rfl
  · rintro rfl
    simp [behind] at start

theorem step_group (shorter : ReducedBelow scope answers (here.behind front).tokens.length)
    (start : (here.behind front).first.signs = [])
    (noSign : ∀ f ∈ (here.behind front).factors, ¬ f.SignsValue)
    (found : ∃ e, here.first.atom = .group e) (before : ∀ x ∈ front, ¬ ∃ e, x.1.atom = .group e) :
    ((scope.contracted answers (here.behind front).tokens).bind fun next =>
      Action.outcome answers (scope.reduce next)) = (here.behind front).outcome scope answers := by
  obtain ⟨⟨signs, a⟩, later⟩ := here
  obtain ⟨e, rfl⟩ := found
  have short : e.tokens.length < (behind front ⟨⟨signs, .group e⟩, later⟩).tokens.length := by
    rw [tokens_behind]
    simp [tokens, SignedAtom.tokens, Atom.tokens]
    omega
  refine outcome_of_contracted signs later (Action.outcome answers (e.value scope)) (fun _ => True)
    ?_ (e.ensures_value scope) ?_ trivial (fun _ _ _ _ _ _ => trivial) start ?_ shorter
  · rw [Scope.contracted_of_group (first?_signsValue_eq_none noSign)
      (first?_opensGroup fun x hx e he => before x hx ⟨e, he⟩)
      (Cut.closing?_of_nested e.balanced_tokens rfl _), outcome_reduce_expression shorter e short]
  · rintro p -
    rw [outcomeFrom, SignedAtom.outcome, Sign.applyAll_eq_bind, Option.bind_assoc]
    rfl
  · rintro rfl
    exact start

theorem step_call (shorter : ReducedBelow scope answers (here.behind front).tokens.length)
    (start : (here.behind front).first.signs = [])
    (noSign : ∀ f ∈ (here.behind front).factors, ¬ f.SignsValue)
    (noGroup : ∀ f ∈ (here.behind front).factors, ¬ ∃ e, f.atom = .group e)
    (found : here.first.atom.callParts? ≠ none)
    (before : ∀ x ∈ front, ¬ x.1.atom.callParts? ≠ none) :
    ((scope.contracted answers (here.behind front).tokens).bind fun next =>
      Action.outcome answers (scope.reduce next)) = (here.behind front).outcome scope answers := by
  obtain ⟨⟨signs, a⟩, later⟩ := here
  obtain ⟨⟨name, inside⟩, parts⟩ := Option.ne_none_iff_exists'.1 found
  have short (e : Expression) (h : e.tokens.length ≤ inside.length) :
      e.tokens.length < (behind front ⟨⟨signs, a⟩, later⟩).tokens.length := by
    rw [tokens_behind]
    simp [tokens, SignedAtom.tokens, a.tokens_of_callParts parts]
    omega
  refine outcome_of_contracted signs later (Action.outcome answers (a.value scope)) (fun _ => True)
    ?_ (a.ensures_value scope) ?_ trivial (fun _ _ _ _ _ _ => trivial) start ?_ shorter
  · rw [Scope.contracted_of_call (first?_signsValue_eq_none noSign)
      (first?_opensGroup_eq_none fun f hf e he => noGroup f hf ⟨e, he⟩)
      (first?_opensCall parts fun x hx => not_not.1 (before x hx))
      (Cut.closing?_of_nested (a.balanced_of_callParts parts) rfl _)
      (functionName?_callOpener name),
      a.outcome_call parts fun e h => outcome_reduce_expression shorter e (short e h)]
  · rintro p -
    rw [outcomeFrom, SignedAtom.outcome, Sign.applyAll_eq_bind, Option.bind_assoc]
  · rintro rfl
    exact start

/-- The first operator of a chain of operands. `ahead` says that its result is needed as soon as its
operands are there. -/
theorem step_operator (front : List (SignedAtom × Arithmetic)) {left right : Token}
    {hl : left.IsOperand} {hr : right.IsOperand} {op : Arithmetic}
    {later : List (Arithmetic × SignedAtom)} {chain : Chain}
    (whole : chain =
      behind front ⟨⟨[], .operand left hl⟩, (op, ⟨[], .operand right hr⟩) :: later⟩)
    (shorter : ReducedBelow scope answers chain.tokens.length) (start : chain.first.signs = [])
    (noSign : ∀ f ∈ chain.factors, ¬ f.SignsValue)
    (noGroup : ∀ f ∈ chain.factors, ¬ ∃ e, f.atom = .group e)
    (noCall : ∀ f ∈ chain.factors, ¬ f.atom.callParts? ≠ none)
    (noProduct : op.isFactor = false → Cut.first? (Scope.operates true) chain.tokens = none)
    (before : ∀ x ∈ front, x.2.isFactor ≠ op.isFactor) {q : Pending → Prop}
    (ahead : ∀ p, q p → ∀ x, outcomeAfter scope answers p x
      ((op, ⟨[], .operand right hr⟩) :: later) = (scope.operand right).toOption.bind fun y =>
        (op.combine x y).toOption.bind fun z => outcomeAfter scope answers p z later)
    (initially : q {})
    (leads : ∀ x ∈ front, ∀ p y p', Pending.extend p y x.2 = some p' → q p') :
    ((scope.contracted answers chain.tokens).bind fun next =>
      Action.outcome answers (scope.reduce next)) = chain.outcome scope answers := by
  subst whole
  refine outcome_of_contracted [] later (scope.combine op left right).toOption q ?_ ?_ ?_ initially
    leads start (fun _ => rfl) shorter
  · rw [Scope.contracted_of_operator (first?_signsValue_eq_none noSign)
      (first?_opensGroup_eq_none fun f hf e he => noGroup f hf ⟨e, he⟩)
      (first?_opensCall_eq_none fun f hf => not_not.1 (noCall f hf)) noProduct
      (first?_operates rfl before) op.ofToken?_token, List.map_nil, List.append_nil]
  · intro v hv
    rw [toOption_combine] at hv
    obtain ⟨x, -, hv⟩ := Option.bind_eq_some_iff.1 hv
    obtain ⟨y, -, hv⟩ := Option.bind_eq_some_iff.1 hv
    exact isResult_of_combine (Except.toOption_eq_some.1 hv)
  · intro p hp
    have operand : (⟨[], .operand left hl⟩ : SignedAtom).outcome scope answers =
        (scope.operand left).toOption := rfl
    rw [outcomeFrom, operand, toOption_combine, Option.bind_assoc]
    refine congrArg _ (funext fun x => ?_)
    rw [ahead p hp, Option.bind_assoc]
    rfl

/-- A product is needed before the sum that it stands in. -/
theorem outcomeAfter_isFactor {right : Token} {hr : right.IsOperand} {op : Arithmetic}
    (isFactor : op.isFactor = true) (later : List (Arithmetic × SignedAtom)) (p : Pending)
    (hp : p.product = none) (x : Token) :
    outcomeAfter scope answers p x ((op, ⟨[], .operand right hr⟩) :: later) =
      (scope.operand right).toOption.bind fun y =>
        (op.combine x y).toOption.bind fun z => outcomeAfter scope answers p z later := by
  obtain ⟨sum, product⟩ := p
  cases hp
  have extended : Pending.extend ⟨sum, none⟩ x op = some ⟨sum, some (x, op)⟩ := by
    simp [Pending.extend, Pending.complete, isFactor]
  rw [outcomeAfter, extended, Option.bind_some]
  exact congrArg _ (funext fun y => outcomeAfter_product scope answers sum x op y later)

/-- Without a product the first sum is needed first. -/
theorem outcomeAfter_isSum {right : Token} {hr : right.IsOperand} {op : Arithmetic}
    (isSum : op.isFactor = false) {later : List (Arithmetic × SignedAtom)}
    (sums : ∀ next ∈ later.head?, next.1.isFactor = false) (p : Pending) (hp : p = {}) (x : Token) :
    outcomeAfter scope answers p x ((op, ⟨[], .operand right hr⟩) :: later) =
      (scope.operand right).toOption.bind fun y =>
        (op.combine x y).toOption.bind fun z => outcomeAfter scope answers p z later := by
  subst hp
  have extended : Pending.extend {} x op = some ⟨some (x, op), none⟩ := by
    simp [Pending.extend, Pending.complete, isSum]
  rw [outcomeAfter, extended, Option.bind_some]
  exact congrArg _ (funext fun y => outcomeAfter_sum scope answers x op y sums)

/-- No product waits after the operator of a sum. -/
theorem product_of_extend {p p' : Pending} {y : Token} {op : Arithmetic}
    (isSum : op.isFactor = false) (h : p.extend y op = some p') : p'.product = none := by
  obtain ⟨z, -, h⟩ := Option.bind_eq_some_iff.1 h
  simp only [isSum, Bool.false_eq_true, if_false] at h
  obtain ⟨x, -, rfl⟩ := Option.map_eq_some_iff.1 h
  rfl

end Steps

theorem eq_operand_of_plain {f : SignedAtom} (noSign : ¬ f.SignsValue)
    (noGroup : ¬ ∃ e, f.atom = .group e) (noCall : ¬ f.atom.callParts? ≠ none) :
    ∃ t h, f = ⟨[], .operand t h⟩ := by
  obtain ⟨signs, a⟩ := f
  cases a with
  | operand t h =>
    cases signs with
    | nil => exact ⟨t, h, rfl⟩
    | cons s ss => exact absurd ⟨List.cons_ne_nil _ _, t, h, rfl⟩ noSign
  | group e => exact absurd ⟨e, rfl⟩ noGroup
  | call name arguments => exact absurd nofun noCall
  | compare name isIf left relation right arguments => exact absurd nofun noCall

/-- The reduction of a chain has the outcome of the chain. -/
theorem outcome_reduce (chain : Chain) (start : chain.first.signs = []) :
    Action.outcome answers (scope.reduce chain.tokens) = chain.outcome scope answers := by
  induction size : chain.tokens.length using Nat.strongRecOn generalizing chain with
  | _ n ih =>
    have shorter : ReducedBelow scope answers chain.tokens.length := fun chain' start' less =>
      ih _ (size ▸ less) chain' start' rfl
    obtain ⟨t, h, rfl⟩ | ⟨second, rest, spelled⟩ := eq_operand_or_tokens start
    · rw [outcome, outcomeFrom]
      simp [tokens, laterTokens, SignedAtom.tokens, Atom.tokens, SignedAtom.outcome, Sign.applyAll,
        Atom.value, outcomeAfter, Pending.finish, Pending.complete]
    rw [spelled, scope.outcome_reduce_of_contracted answers chain.first.atom.kind_lead, ← spelled]
    -- the first of the rules that applies
    obtain noSign | ⟨front, here, rfl, found, before⟩ := chain.exists_behind SignedAtom.SignsValue
    swap
    · exact step_sign shorter start found before
    obtain noGroup | ⟨front, here, rfl, found, before⟩ :=
      chain.exists_behind fun f => ∃ e, f.atom = .group e
    swap
    · exact step_group shorter start noSign found before
    obtain noCall | ⟨front, here, rfl, found, before⟩ :=
      chain.exists_behind fun f => f.atom.callParts? ≠ none
    swap
    · exact step_call shorter start noSign noGroup found before
    have plain (f : SignedAtom) (hf : f ∈ chain.factors) : ∃ t h, f = ⟨[], .operand t h⟩ :=
      eq_operand_of_plain (noSign f hf) (noGroup f hf) (noCall f hf)
    obtain sums | ⟨front, f, op, g, later, rfl, isFactor, before⟩ := chain.exists_behind_product
    swap
    · have within : ∀ f' ∈ [f, g], f' ∈ (behind front ⟨f, (op, g) :: later⟩).factors := by
        rw [factors_behind]
        simp [factors]
      obtain ⟨left, hl, rfl⟩ := plain f (within f (by simp))
      obtain ⟨right, hr, rfl⟩ := plain g (within g (by simp))
      refine step_operator front rfl shorter start noSign noGroup noCall (by simp [isFactor])
        (fun x hx => by simp [isFactor, before x hx]) (outcomeAfter_isFactor isFactor later) rfl ?_
      exact fun x hx p y p' extended => product_of_extend (before x hx) extended
    have noProduct : Cut.first? (Scope.operates true) chain.tokens = none :=
      first?_operates_eq_none fun x hx => by simp [sums x hx]
    obtain ⟨f, later⟩ := chain
    obtain ⟨left, hl, rfl⟩ := plain f List.mem_cons_self
    cases later with
    | nil => simp [tokens, laterTokens, SignedAtom.tokens, Atom.tokens] at spelled
    | cons next later =>
      obtain ⟨op, g⟩ := next
      obtain ⟨right, hr, rfl⟩ := plain g (by simp [factors])
      obtain ⟨isSum, sums⟩ := List.forall_mem_cons.1 sums
      have first : ∀ next ∈ later.head?, next.1.isFactor = false := fun next h =>
        sums next (List.mem_of_mem_head? h)
      exact step_operator [] rfl shorter start noSign noGroup noCall (fun _ => noProduct) (by simp)
        (outcomeAfter_isSum isSum first) rfl (by simp)

end Chain

/-- The reduction of an expression has the outcome of its value. -/
theorem Expression.outcome_reduce (e : Expression) :
    outcome answers (scope.reduce e.tokens) = outcome answers (e.value scope) :=
  Chain.outcome_reduce_expression (fun chain start _ => chain.outcome_reduce start) e
    (Nat.lt_succ_self _)

/-! ## Formulas -/

/-- A database that answers each query as a function of its text and parameters. -/
def Server.AnswersAlike {σ : Type} (server : Server σ) : Prop :=
  ∃ answer : Text → Params → Except Error (List Row),
    ∀ sql params s, (server (.query sql params) s).1 = answer sql params

/-- What an evaluation may ask is always answered in the same way. -/
theorem Scope.exists_answers {σ : Type} {server : Server σ}
    (alike : scope.connection = none ∨ server.AnswersAlike) :
    ∃ answers : Answers, ∀ r, scope.Queries r → ∀ s, (server r s).1 = answers r := by
  obtain disconnected | ⟨answer, alike⟩ := alike
  · refine ⟨fun _ => .error (.resolve .noConnection), fun r hr s => ?_⟩
    simp [Queries, disconnected] at hr
  · let answers : Answers := fun
      | .query sql params => answer sql params
      | _ => .error (.resolve .noConnection)
    refine ⟨answers, fun r hr s => ?_⟩
    obtain ⟨-, sql, params, rfl⟩ := hr
    exact alike sql params s

/-- Actions that ask what an evaluation may ask have outcomes. -/
theorem Scope.toOption_result {σ : Type} {server : Server σ} (scope : Scope)
    (alike : scope.connection = none ∨ server.AnswersAlike) :
    ∃ answers : Answers, ∀ {α : Type} {a : Action α}, a.Asks scope.Queries → ∀ s,
      (a.result server s).toOption = outcome answers a := by
  obtain ⟨answers, same⟩ := exists_answers alike
  exact ⟨answers, fun asks s => Action.toOption_result (asks.mono same) s⟩

/-- An expression that is a single atom. -/
def Expression.ofAtom (a : Atom) : Expression := .sum (.term (.factor (.atom a)))

/-- A formula that spells an expression is evaluated to the value of the expression: the tokens have
a value if and only if the expression has one, and then it is the same. -/
theorem Expression.result_evaluate {σ : Type} (scope : Scope) (server : Server σ)
    (alike : scope.connection = none ∨ server.AnswersAlike) (e : Expression) (s : σ) (v : Token) :
    (scope.evaluate e.tokens).result server s = .ok v ↔
      (e.value scope).result server s = .ok v := by
  obtain ⟨answers, same⟩ := scope.toOption_result alike
  have noBlanks : e.tokens.filter (fun t => t.kind ≠ .blank) = e.tokens :=
    List.filter_eq_self.2 fun t ht => by simpa using e.kind_ne_blank t ht
  rw [Scope.evaluate, noBlanks, ← Except.toOption_eq_some, ← Except.toOption_eq_some,
    same (Scope.asks_reduce _), same (e.asks_value scope), e.outcome_reduce]

/-- The sign applies to all that follows it, the second one to the `4` alone, products and quotients
come before sums, and the span `A:A`, which has no value, is not evaluated. -/
theorem Expression.result_evaluate_nested :
    let scope : Scope := ⟨.ofTable ⟨"s", "t"⟩ {}, none⟩
    let server : Server Unit := fun _ s => (.error (.resolve .noConnection), s)
    let number (x : Float) : Atom := .operand (.ofNumber x) (Token.isResult_ofNumber x).1
    let text (t : Text) : Expression := ofAtom (.operand (.ofText t) ⟨rfl, nofun, nofun⟩)
    let half : Expression := .sum (.term (.more (.factor (.atom (number 6))) .dividedBy rfl
      (.atom (number 2))))
    let span : Expression := ofAtom (.operand ⟨.operand, .range, "A:A", none⟩ ⟨rfl, nofun, nofun⟩)
    let choice : Atom := .compare "IF" rfl (text "a") .eq (text "b") (.cons span (.cons half .nil))
    let product : Term .later := .more (.factor (.atom (number 3))) .times rfl
      (.signed .minus (.atom (number 4)))
    let e : Expression := .signed .minus (.sum (.more (.more (.term (.factor (.atom (number 2)))) .plus
      rfl product) .minus rfl (.factor (.atom choice))))
    Token.spell e.tokens = "-2+3*-4-IF(\"a\"=\"b\",A:A,6/2)" ∧
      (scope.connection = none ∨ server.AnswersAlike) ∧
      (e.value scope).result server () = .ok (.ofNumber 13) ∧
      (scope.evaluate e.tokens).result server () = .ok (.ofNumber 13) := by
  intro scope server number text half span choice product e
  have value : (e.value scope).result server () = .ok (.ofNumber 13) := by decide +kernel
  exact ⟨by decide +kernel, .inl rfl, value,
    (result_evaluate scope server (.inl rfl) e () (.ofNumber 13)).2 value⟩

end JoinSheet
