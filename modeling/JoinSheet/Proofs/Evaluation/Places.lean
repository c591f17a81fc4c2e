import JoinSheet.Proofs.Evaluation.Reduction

/-!
# Reduction by places

The rules of reduction find places in the tokens by counting open groups, and replace what stands
between two places. Here each rule is written down with these places and counters. Nothing is known
about the tokens, so every access is checked, and a step that reads or counts beyond the tokens says
so. It turns out that no step does.

## Main definitions

* `closingPlace?`, `slice?`, `splice?` — the end of a group, a part of the tokens and a replacement,
  by places.
* `Step` — what a step leads to.
* `Scope.step` — one step, with any evaluation of the parts that it starts.

## Main statements

* `closingPlace?_eq` — the end of a group is found without leaving the tokens or losing count.
* `Scope.ruleStep_eq` — the rules by places contract the tokens as the rules themselves do.
-/

namespace JoinSheet

/-! ## Checked places -/

/-- A counter that is lowered, unless it would fall below zero. -/
def lowered? (n amount : Nat) : Option Nat := if amount ≤ n then some (n - amount) else none

/-- The tokens from one place up to another. -/
def slice? (tokens : List Token) (start stop : Nat) : Option (List Token) :=
  if start ≤ stop ∧ stop ≤ tokens.length then some ((tokens.take stop).drop start) else none

/-- The tokens with a value in place of those from one place up to another. The number of tokens that
are left is computed first. -/
def splice? (tokens : List Token) (start stop : Nat) (value : Token) : Option (List Token) := do
  let width ← lowered? stop start
  let _others ← lowered? tokens.length width
  let before ← slice? tokens 0 start
  let after ← slice? tokens stop tokens.length
  return before ++ value :: after

/-- The place where the groups are closed of which `depth` are open at `place`, if there is one. The
counter may not rise above `limit`. -/
def closingPlaceFrom? (limit : Nat) : (depth place : Nat) → List Token → Option (Option Nat)
  | _, _, [] => some none
  | depth, place, t :: rest =>
    if t.isOpening then
      if depth < limit then closingPlaceFrom? limit (depth + 1) (place + 1) rest else none
    else if t.isClosing then do
      let depth ← lowered? depth 1
      if depth = 0 then some (some place) else closingPlaceFrom? limit depth (place + 1) rest
    else closingPlaceFrom? limit depth (place + 1) rest

/-- The place of the parenthesis that closes the group opened at `start`. No more groups can be open
than there are tokens. -/
def closingPlace? (tokens : List Token) (start : Nat) : Option (Option Nat) :=
  closingPlaceFrom? tokens.length 0 start (tokens.drop start)

theorem closingPlaceFrom?_eq {limit depth : Nat} (place : Nat) {tokens : List Token}
    (room : depth + 1 + tokens.length ≤ limit) :
    closingPlaceFrom? limit (depth + 1) place tokens =
      some ((Cut.closing? depth tokens).map fun cut => place + cut.before.length) := by
  induction tokens generalizing depth place with
  | nil => rfl
  | cons t rest ih =>
    rw [List.length_cons] at room
    -- One more token stands before the place.
    have moved (found : Option Cut) : (found.map (Cut.cons t)).map
        (fun cut => place + cut.before.length) = found.map fun cut => place + 1 + cut.before.length := by
      rw [Option.map_map]
      refine congrArg (found.map ·) (funext fun cut => ?_)
      simp only [Function.comp_apply, Cut.cons, List.length_cons]
      omega
    rw [closingPlaceFrom?, Cut.closing?.eq_def]
    simp only
    split
    · rw [if_pos (by omega), ih (place + 1) (by omega), moved]
    · split
      · cases depth with
        | zero => rfl
        | succ depth =>
          have counted : lowered? (depth + 1 + 1) 1 = some (depth + 1) := rfl
          simp only [counted, Option.bind_eq_bind, Option.bind_some, moved]
          rw [if_neg (by omega), ih (place + 1) (by omega)]
      · rw [ih (place + 1) (by omega), moved]

/-- The search for the end of a group neither leaves the tokens nor loses count. -/
theorem closingPlace?_eq (before : List Token) {opener : Token} (opens : opener.isOpening)
    (after : List Token) : closingPlace? (before ++ opener :: after) before.length =
      some ((Cut.closing? 0 after).map fun cut => before.length + 1 + cut.before.length) := by
  have room : 0 + 1 + after.length ≤ (before ++ opener :: after).length := by
    rw [List.length_append, List.length_cons]
    omega
  rw [closingPlace?, List.drop_left, closingPlaceFrom?, if_pos opens, if_pos (by omega)]
  exact closingPlaceFrom?_eq _ room

theorem slice?_append (before inside after : List Token) :
    slice? (before ++ (inside ++ after)) before.length (before.length + inside.length) =
      some inside := by
  rw [slice?, if_pos (by simp), List.take_length_add_append, List.drop_left, List.take_left]

theorem splice?_append (before inside after : List Token) (value : Token) :
    splice? (before ++ (inside ++ after)) before.length (before.length + inside.length) value =
      some (before ++ value :: after) := by
  have width : lowered? (before.length + inside.length) before.length = some inside.length := by
    rw [lowered?, if_pos (Nat.le_add_right ..), Nat.add_sub_cancel_left]
  have others : lowered? (before ++ (inside ++ after)).length inside.length =
      some (before.length + after.length) := by
    rw [lowered?, List.length_append, List.length_append, if_pos (by omega)]
    exact congrArg some (by omega)
  have total : (before ++ (inside ++ after)).length =
      before.length + inside.length + after.length := by
    rw [List.length_append, List.length_append, Nat.add_assoc]
  have front := slice?_append [] before (inside ++ after)
  have back := slice?_append (before ++ inside) after []
  rw [List.nil_append, List.length_nil, Nat.zero_add] at front
  rw [List.append_nil, List.append_assoc, List.length_append, ← total] at back
  simp only [splice?, width, others, front, back, Option.bind_eq_bind, Option.bind_some]
  rfl

/-! ## Steps -/

/-- What a step leads to. -/
inductive Step where
  | done (value : Token)
  | reduced (next : List Token)
  /-- A place beyond the tokens was read, or a counter fell below zero or rose beyond their number. -/
  | outOfRange

/-- Goes on with what a checked access yields. -/
def Step.reading {α : Type} (found : Option α) (next : α → Action Step) : Action Step :=
  match found with
  | some a => next a
  | none => return .outOfRange

/-- The step to the tokens with a value in place of those from one place up to another. -/
def Step.splicing (tokens : List Token) (start stop : Nat) (value : Token) : Action Step :=
  reading (splice? tokens start stop value) fun next => return .reduced next

/-- A search at the top level finds what it looks for. -/
theorem Cut.holds_of_firstFrom? {p : Token → List Token → Bool} {depth : Nat} {tokens : List Token}
    {cut : Cut} (h : firstFrom? p depth tokens = some cut) : p cut.token cut.after := by
  induction tokens generalizing depth cut with
  | nil => cases h
  | cons t rest ih =>
    rw [firstFrom?] at h
    split at h
    · obtain ⟨later, found, rfl⟩ := Option.map_eq_some_iff.1 h
      have holds := ih found
      exact holds
    · split at h
      next here =>
        cases h
        exact here.2
      next =>
        obtain ⟨later, found, rfl⟩ := Option.map_eq_some_iff.1 h
        have holds := ih found
        exact holds

/-- The place of the first token at the top level that a rule looks for. -/
def firstPlace? (p : Token → List Token → Bool) (tokens : List Token) : Option Nat :=
  (Cut.first? p tokens).map fun cut => cut.before.length

/-- Whether a condition holds, with any evaluation of its sides. -/
def conditionBy (eval : List Token → Action Token) (tokens : List Token) : Action Bool :=
  match Cut.first? (fun t _ => t.isComparison) tokens with
  | none => do truthValue (← eval tokens)
  | some ⟨before, operator, after⟩ =>
    if (Cut.first? (fun t _ => t.isComparison) after).isSome then
      throw (.eval .severalComparisons)
    else do
      let left ← eval before
      let right ← eval after
      compareValues operator.text left right

/-- The argument that tokens are, with any evaluation of it. -/
def Argument.ofTokens (eval : List Token → Action Token) (tokens : List Token) : Argument where
  range? := loneRange? tokens
  value _ := eval tokens
  holds _ := conditionBy eval tokens

namespace Scope

open Step

/-- A sign with the value after it. -/
def signStep (scope : Scope) (tokens : List Token) : Option (Action Step) :=
  (firstPlace? signsValue tokens).map fun place =>
    reading tokens[place]? fun sign =>
    reading tokens[place + 1]? fun operand => do
      let value ← scope.operand operand
      let signed ← applySign sign value
      splicing tokens place (place + 2) signed

/-- The group or call that is opened at a place, with its inside evaluated by `f`. -/
def groupFrom (tokens : List Token) (place : Nat) (f : List Token → Action Token) : Action Step :=
  reading tokens[place]? fun opener =>
  reading (closingPlace? tokens place) fun
    | none => throw (.parse (.unmatchedGroup opener.text))
    | some stop =>
      reading (slice? tokens (place + 1) stop) fun inside => do
        let value ← f inside
        splicing tokens place (stop + 1) value

/-- The first group. -/
def groupStep (eval : List Token → Action Token) (tokens : List Token) : Option (Action Step) :=
  (firstPlace? opensGroup tokens).map fun place => groupFrom tokens place eval

/-- The first call. -/
def callStep (scope : Scope) (eval : List Token → Action Token) (tokens : List Token) :
    Option (Action Step) :=
  (firstPlace? opensCall tokens).map fun place =>
    reading tokens[place]? fun opener =>
    let name := (opener.functionName?.getD []).upper
    groupFrom tokens place fun inside =>
      scope.call name ((splitArguments inside).map (Argument.ofTokens eval))

/-- The first operator, either among products and quotients or among sums and differences. -/
def operatorStep (scope : Scope) (factors : Bool) (tokens : List Token) : Option (Action Step) :=
  (firstPlace? (operates factors) tokens).map fun place =>
    reading tokens[place]? fun operator =>
    if place = 0 ∨ tokens.length ≤ place + 1 then throw (.eval (.missingOperand operator.text))
    else
      reading (lowered? place 1) fun previous =>
      reading tokens[previous]? fun left =>
      reading tokens[place + 1]? fun right => do
        let some op := Arithmetic.ofToken? operator
          | throw (.eval (.missingOperand operator.text))
        let value ← scope.combine op left right
        splicing tokens previous (place + 2) value

/-- The first rule that applies. -/
def ruleStep (scope : Scope) (eval : List Token → Action Token) (tokens : List Token) :
    Action Step :=
  ((scope.signStep tokens).or ((groupStep eval tokens).or ((scope.callStep eval tokens).or
    ((scope.operatorStep true tokens).or (scope.operatorStep false tokens))))).getD
      (throw (.eval (.malformed (Token.spell tokens))))

/-- One step. Parts of the tokens are evaluated by `eval`, whatever that is. -/
def step (scope : Scope) (eval : List Token → Action Token) (tokens : List Token) : Action Step :=
  match tokens with
  | [] => throw (.eval .emptyExpression)
  | [only] => do return .done (← scope.operand only)
  | first :: second :: rest =>
    if first.kind = .prefixOp then do
      let value ← eval (second :: rest)
      return .done (← applySign first value)
    else scope.ruleStep eval (first :: second :: rest)

/-! ## Steps are contractions -/

section Contractions

variable {scope : Scope} {tokens : List Token} (eval : List Token → Action Token)

/-- The step that a contraction is. -/
def contracting (next : Action (Part tokens.length)) : Action Step := do
  return .reduced (← next).1

@[simp] theorem reading_some {α : Type} (a : α) (next : α → Action Step) :
    reading (some a) next = next a := rfl

theorem splicing_append (before inside after : List Token) (value : Token) :
    splicing (before ++ (inside ++ after)) before.length (before.length + inside.length) value =
      return .reduced (before ++ value :: after) := by
  rw [splicing, splice?_append, reading_some]

theorem getElem?_place (before : List Token) (t : Token) (after : List Token) :
    (before ++ t :: after)[before.length]? = some t := by
  simp

theorem signStep_eq : scope.signStep tokens = (scope.signRule tokens).map contracting := by
  unfold signStep firstPlace? signRule
  split
  next before sign value after found =>
    have whole : tokens = before ++ ([sign, value] ++ after) := (Cut.whole_of_first? found).symm
    have here : tokens[before.length]? = some sign := by simp [whole]
    have next : tokens[before.length + 1]? = some value := by simp [whole]
    have spliced (v : Token) : splicing tokens before.length (before.length + 2) v =
        return .reduced (before ++ v :: after) := by
      rw [whole]
      exact splicing_append before [sign, value] after v
    simp only [found, Option.map_some, here, next, reading_some, spliced]
    simp [contracting]
  next missed =>
    cases found : Cut.first? signsValue tokens with
    | none => rfl
    | some cut =>
      obtain ⟨before, sign, after⟩ := cut
      have signs : signsValue sign after := Cut.holds_of_firstFrom? found
      cases after with
      | nil => simp [signsValue] at signs
      | cons value after => exact absurd found (missed before sign value after)

/-- The inside of a group is a part of the tokens, whose value takes the place of the group. -/
theorem groupFrom_eq {cut : Cut} (whole : cut.whole = tokens) (opens : cut.token.isOpening) :
    groupFrom tokens cut.before.length eval =
      contracting (contractGroup cut whole fun part => eval part.1) := by
  obtain ⟨before, opener, after⟩ := cut
  subst whole
  have here : (Cut.mk before opener after).whole[before.length]? = some opener :=
    getElem?_place before opener after
  have searched : closingPlace? (Cut.mk before opener after).whole before.length = _ :=
    closingPlace?_eq before opens after
  unfold contractGroup
  split
  next unclosed =>
    simp only [groupFrom, here, searched, reading_some, unclosed, Option.map_none]
    simp [contracting]
  next inside closer rest closed =>
    have split : after = inside ++ closer :: rest := (Cut.whole_of_closing? closed).symm
    have sliced : slice? (Cut.mk before opener after).whole (before.length + 1)
        (before.length + 1 + inside.length) = some inside := by
      have part := slice?_append (before ++ [opener]) inside (closer :: rest)
      simpa [Cut.whole, split] using part
    have spliced (v : Token) : splicing (Cut.mk before opener after).whole before.length
        (before.length + 1 + inside.length + 1) v = return .reduced (before ++ v :: rest) := by
      have put := splicing_append before (opener :: (inside ++ [closer])) rest v
      have size : before.length + (opener :: (inside ++ [closer])).length =
          before.length + 1 + inside.length + 1 := by
        simp only [List.length_cons, List.length_append, List.length_nil]
        omega
      rw [size] at put
      simpa [Cut.whole, split] using put
    simp only [groupFrom, here, searched, reading_some, closed, Option.map_some, sliced, spliced]
    simp [contracting]

theorem groupStep_eq : groupStep eval tokens =
    (groupRule tokens fun part => eval part.1).map contracting := by
  unfold groupStep firstPlace? groupRule
  split
  next missed => rw [missed]; rfl
  next cut found =>
    have opens : opensGroup cut.token cut.after := Cut.holds_of_firstFrom? found
    rw [opensGroup, Bool.and_eq_true] at opens
    simp only [found, Option.map_some, groupFrom_eq eval (Cut.whole_of_first? found) opens.2]

theorem condition_eq_conditionBy {n : Nat} (part : Part n) :
    condition (fun part => eval part.1) part = conditionBy eval part.1 := by
  unfold condition conditionBy
  split
  next missed => simp only [missed]
  next cut found => simp only [found]

theorem map_argumentParts_ofPart {n : Nat} (inside : Part n) :
    (argumentParts inside).map (Argument.ofPart fun part => eval part.1) =
      (splitArguments inside.1).map (Argument.ofTokens eval) := by
  have same (part : Part n) :
      Argument.ofPart (fun part => eval part.1) part = Argument.ofTokens eval part.1 := by
    rw [Argument.ofPart, Argument.ofTokens, condition_eq_conditionBy]
  simp only [argumentParts, List.map_map, Function.comp_def, same]
  exact List.attach_map_val

theorem callStep_eq : scope.callStep eval tokens =
    (scope.callRule tokens fun part => eval part.1).map contracting := by
  unfold callStep firstPlace? callRule
  split
  next missed => rw [missed]; rfl
  next cut found =>
    have named : opensCall cut.token cut.after := Cut.holds_of_firstFrom? found
    have opens : cut.token.isOpening := by
      unfold opensCall Token.functionName? at named
      split at named
      next call => simp [Token.isOpening, call.2.1]
      next => cases named
    have whole := Cut.whole_of_first? found
    have here : tokens[cut.before.length]? = some cut.token :=
      whole ▸ getElem?_place cut.before cut.token cut.after
    simp only [found, Option.map_some, here, reading_some, map_argumentParts_ofPart]
    rw [groupFrom_eq _ whole opens]

theorem operatorStep_eq (factors : Bool) : scope.operatorStep factors tokens =
    (scope.operatorRule factors tokens).map contracting := by
  unfold operatorStep firstPlace? operatorRule
  split
  next missed => rw [missed]; rfl
  next before operator after found =>
    have whole : tokens = before ++ operator :: after := (Cut.whole_of_first? found).symm
    have here : tokens[before.length]? = some operator := whole ▸ getElem?_place before operator after
    simp only [found, Option.map_some, here, reading_some]
    obtain rfl | ⟨front, left, rfl⟩ := List.eq_nil_or_concat' before
    · -- No operand stands before the operator.
      simp [contracting]
    cases after with
    | nil =>
      have last : tokens.length ≤ (front ++ [left]).length + 1 := by simp [whole]
      simp only [last, or_true, if_true]
      simp [contracting]
    | cons right rest =>
      have inner : ¬((front ++ [left]).length = 0 ∨ tokens.length ≤ (front ++ [left]).length + 1) := by
        simp [whole]
        omega
      have previous : lowered? (front ++ [left]).length 1 = some front.length := by
        rw [lowered?, List.length_append, List.length_singleton, if_pos (Nat.le_add_left ..)]
        rfl
      have before : tokens[front.length]? = some left := by simp [whole]
      have next : tokens[(front ++ [left]).length + 1]? = some right := by
        rw [whole, List.getElem?_append_right (Nat.le_succ _)]
        simp
      have spliced (v : Token) : splicing tokens front.length ((front ++ [left]).length + 2) v =
          return .reduced (front ++ v :: rest) := by
        have put := splicing_append front [left, operator, right] rest v
        simpa [whole] using put
      simp only [if_neg inner, previous, before, next, reading_some, spliced,
        List.getLast?_append, List.getLast?_singleton, Option.some_or, List.dropLast_concat]
      cases Arithmetic.ofToken? operator <;> simp [contracting]

/-- The rules by places contract the tokens as the rules themselves do. -/
theorem ruleStep_eq : scope.ruleStep eval tokens =
    contracting (scope.contract tokens fun part => eval part.1) := by
  have malformed (e : Error) : (throw e : Action Step) =
      contracting (throw e : Action (Part tokens.length)) := rfl
  rw [ruleStep, contract_eq_or, signStep_eq, groupStep_eq, callStep_eq, operatorStep_eq,
    operatorStep_eq, malformed]
  simp only [← Option.map_or, Option.getD_map]

end Contractions

end Scope

end JoinSheet
