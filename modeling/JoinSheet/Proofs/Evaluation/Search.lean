import JoinSheet.Evaluation.Reduce
import JoinSheet.Proofs.Evaluation.Chain
import JoinSheet.Proofs.Evaluation.Spelling

/-!
# Searching a chain

What the rules of reduction look for, and where they find it in the tokens of a chain.

## Main results

* `Chain.first?_signsValue` — the first sign before a value.
* `Chain.first?_opensGroup`, `Chain.first?_opensCall` — the first group and the first call.
* `Chain.first?_operates` — the first operator.
-/

namespace JoinSheet

open Scope

/-! ## What a search passes over in a chain -/

/-- Whether the last sign of a signed atom stands before a value. -/
def SignedAtom.SignsValue (f : SignedAtom) : Prop :=
  f.signs ≠ [] ∧ ∃ t h, f.atom = .operand t h

namespace Chain

variable {p : Token → List Token → Bool}

theorem skips_signs (h : ∀ (s : Sign) rest, p s.token rest = false) (signs : List Sign) :
    Cut.Skips p (signs.map Sign.token) := by
  induction signs with
  | nil => exact Cut.skips_nil
  | cons s ss ih => exact ih.cons s.isPart_token.2.1 s.isPart_token.2.2 fun _ => h s _

theorem skips_atom {f : SignedAtom} (signs : ∀ (s : Sign) rest, p s.token rest = false)
    (lead : ∀ rest, p f.atom.lead rest = false) : Cut.Skips p f.tokens :=
  (skips_signs signs f.signs).append
    (Cut.skips_of_balanced (f.atom.balanced_of_lead (q := fun t => ∀ rest, p t rest = false) lead)
      fun _ rest h => h rest)

theorem skips_frontTokens {front : List (SignedAtom × Arithmetic)}
    (atoms : ∀ x ∈ front, Cut.Skips p x.1.tokens)
    (operators : ∀ x ∈ front, ∀ rest, p x.2.token rest = false) :
    Cut.Skips p (frontTokens front) := by
  induction front with
  | nil => exact Cut.skips_nil
  | cons x front ih =>
    obtain ⟨atom, atoms⟩ := List.forall_mem_cons.1 atoms
    obtain ⟨operator, operators⟩ := List.forall_mem_cons.1 operators
    have plain := x.2.isPart_token.2
    exact (atom.append (Cut.skips_nil.cons plain.1 plain.2 fun _ => operator _)).append
      (ih atoms operators)

theorem skips_tokens {chain : Chain} (atoms : ∀ f ∈ chain.factors, Cut.Skips p f.tokens)
    (operators : ∀ x ∈ chain.later, ∀ rest, p x.1.token rest = false) :
    Cut.Skips p chain.tokens := by
  obtain ⟨first, later⟩ := chain
  induction later generalizing first with
  | nil =>
    have only := (atoms first List.mem_cons_self).append Cut.skips_nil
    exact only
  | cons next later ih =>
    obtain ⟨atom, atoms⟩ := List.forall_mem_cons.1 atoms
    obtain ⟨operator, operators⟩ := List.forall_mem_cons.1 operators
    have plain := next.1.isPart_token.2
    exact atom.append ((ih next.2 atoms operators).cons plain.1 plain.2 fun _ => operator _)

end Chain

theorem Atom.kind_lead (a : Atom) : a.lead.kind ≠ .prefixOp := by
  cases a with
  | operand t isOperand =>
    intro kind
    have valued := isOperand.1
    simp [lead] at kind
    simp [Token.isValue, kind] at valued
  | group e =>
    intro kind
    cases kind
  | call name arguments =>
    intro kind
    cases kind
  | compare name isIf left relation right arguments =>
    intro kind
    cases kind

theorem SignedAtom.skips_signsValue {f : SignedAtom} (h : ¬ f.SignsValue) :
    Cut.Skips signsValue f.tokens := by
  have atom : Cut.Skips signsValue f.atom.tokens := by
    refine Cut.skips_of_balanced (q := fun t => t.kind ≠ .prefixOp)
      (f.atom.balanced_of_lead f.atom.kind_lead) fun t rest hq => ?_
    simp [signsValue, hq]
  obtain ⟨signs, a⟩ := f
  unfold SignedAtom.tokens
  induction signs with
  | nil => exact atom
  | cons s ss ih =>
    have later : Cut.Skips signsValue (ss.map Sign.token ++ a.tokens) := by
      cases ss with
      | nil => exact atom
      | cons _ _ => exact ih (fun signs => h ⟨List.cons_ne_nil _ _, signs.2⟩) atom
    refine later.cons s.isPart_token.2.1 s.isPart_token.2.2 fun ys => ?_
    cases ss with
    | cons s' ss => cases s' <;> simp [signsValue, Sign.token, Token.isValue]
    | nil =>
      cases a with
      | operand t isOperand => exact absurd ⟨List.cons_ne_nil _ _, t, isOperand, rfl⟩ h
      | group e => simp [signsValue, Atom.tokens, Token.groupOpener, Token.isValue]
      | call name arguments =>
        simp [signsValue, Atom.tokens, Token.callOpener, Token.isValue]
      | compare name isIf left relation right arguments =>
        simp [signsValue, Atom.tokens, Token.callOpener, Token.isValue]

/-! ## What a search finds in a chain -/

/-- The name of the function that an atom calls, and the tokens between the parentheses. -/
def Atom.callParts? : Atom → Option (Text × List Token)
  | .operand _ _ => none
  | .group _ => none
  | .call name arguments => some (name, arguments.tokens)
  | .compare name _ left relation right arguments =>
    some (name, left.tokens ++ relation.token :: right.tokens ++ arguments.laterTokens)

theorem Atom.tokens_of_callParts {a : Atom} {name : Text} {inside : List Token}
    (h : a.callParts? = some (name, inside)) :
    a.tokens = Token.callOpener name :: inside ++ [Token.callCloser] := by
  cases a <;> cases h <;> rfl

theorem Atom.balanced_of_callParts {a : Atom} {name : Text} {inside : List Token}
    (h : a.callParts? = some (name, inside)) : Balanced (fun _ => True) inside := by
  cases a with
  | operand t isOperand => cases h
  | group e => cases h
  | call name arguments =>
    cases h
    exact arguments.balanced_tokens
  | compare name isIf left relation right arguments =>
    cases h
    have notOpening : ¬ relation.token.isOpening := Bool.false_ne_true
    have notClosing : ¬ relation.token.isClosing := Bool.false_ne_true
    exact ((left.balanced_tokens.mono fun _ _ => trivial).append
      (.token trivial notOpening notClosing (right.balanced_tokens.mono fun _ _ => trivial))).append
        arguments.balanced_laterTokens

theorem opensGroup_lead {a : Atom} (h : ∀ e, a ≠ .group e) (rest : List Token) :
    opensGroup a.lead rest = false := by
  cases a with
  | operand t isOperand =>
    have notOpening := isOperand.2.1
    simp [opensGroup, Atom.lead, notOpening]
  | group e => exact absurd rfl (h e)
  | call name arguments => rfl
  | compare name isIf left relation right arguments => rfl

theorem opensCall_lead {a : Atom} (h : a.callParts? = none) (rest : List Token) :
    opensCall a.lead rest = false := by
  cases a with
  | operand t isOperand =>
    have notOpening := isOperand.2.1
    simp only [Token.isOpening, decide_eq_true_eq] at notOpening
    simp [opensCall, Atom.lead, Token.functionName?, notOpening]
  | group e => rfl
  | call name arguments => cases h
  | compare name isIf left relation right arguments => cases h

theorem operates_lead (a : Atom) (factors : Bool) (rest : List Token) :
    operates factors a.lead rest = false := by
  cases a with
  | operand t isOperand =>
    have valued := isOperand.1
    have notInfix : t.kind ≠ .infixOp := by
      intro kind
      simp [Token.isValue, kind] at valued
    simp [operates, Arithmetic.ofToken?, Atom.lead, notInfix]
  | group e => rfl
  | call name arguments => rfl
  | compare name isIf left relation right arguments => rfl

@[simp] theorem Arithmetic.ofToken?_token (op : Arithmetic) : ofToken? op.token = some op := by
  cases op <;> rfl

theorem operates_token (op : Arithmetic) (factors : Bool) (rest : List Token) :
    operates factors op.token rest = (op.isFactor == factors) := by
  simp [operates]

theorem opensGroup_sign (s : Sign) (rest : List Token) : opensGroup s.token rest = false := by
  cases s <;> rfl

theorem opensCall_sign (s : Sign) (rest : List Token) : opensCall s.token rest = false := by
  cases s <;> rfl

theorem operates_sign (s : Sign) (factors : Bool) (rest : List Token) :
    operates factors s.token rest = false := by
  cases s <;> rfl

theorem functionName?_callOpener (name : Text) :
    (Token.callOpener name).functionName? = some name := by
  simp [Token.functionName?, Token.callOpener]

/-- Of several signs the last one stands before the value. -/
theorem first?_signsValue_signs (signs : List Sign) (s : Sign) {t : Token} (h : t.isValue)
    (after : List Token) :
    Cut.first? signsValue (signs.map Sign.token ++ s.token :: t :: after) =
      some ⟨signs.map Sign.token, s.token, t :: after⟩ := by
  induction signs with
  | nil =>
    refine Cut.first?_cons_of_pos s.isPart_token.2.2 ?_
    cases s <;> simp [signsValue, Sign.token, h]
  | cons s' signs ih =>
    have missed : signsValue s'.token (signs.map Sign.token ++ s.token :: t :: after) = false := by
      cases signs with
      | nil => cases s <;> simp [signsValue, Sign.token, Token.isValue]
      | cons s'' signs => cases s'' <;> simp [signsValue, Sign.token, Token.isValue]
    rw [List.map_cons, List.cons_append,
      Cut.first?_cons_of_neg s'.isPart_token.2.1 s'.isPart_token.2.2 missed, ih]
    rfl

namespace Chain

variable {front : List (SignedAtom × Arithmetic)} {signs : List Sign}
  {later : List (Arithmetic × SignedAtom)}

theorem first?_signsValue {s : Sign} {t : Token} {isOperand : t.IsOperand}
    (h : ∀ x ∈ front, ¬ x.1.SignsValue) :
    Cut.first? signsValue
        (behind front ⟨⟨signs ++ [s], .operand t isOperand⟩, later⟩).tokens =
      some ⟨frontTokens front ++ signs.map Sign.token, s.token, t :: laterTokens later⟩ := by
  have skipped : Cut.Skips signsValue (frontTokens front) := by
    refine skips_frontTokens (fun x hx => SignedAtom.skips_signsValue (h x hx)) fun x _ rest => ?_
    cases x.2 <;> rfl
  have spelled : (⟨⟨signs ++ [s], .operand t isOperand⟩, later⟩ : Chain).tokens =
      signs.map Sign.token ++ s.token :: t :: laterTokens later := by
    simp [tokens, SignedAtom.tokens, Atom.tokens]
  rw [tokens_behind, spelled, skipped, first?_signsValue_signs signs s isOperand.1]
  rfl

theorem first?_opensGroup {e : Expression} (h : ∀ x ∈ front, ∀ e, x.1.atom ≠ .group e) :
    Cut.first? opensGroup (behind front ⟨⟨signs, .group e⟩, later⟩).tokens =
      some ⟨frontTokens front ++ signs.map Sign.token, Token.groupOpener,
        e.tokens ++ Token.groupCloser :: laterTokens later⟩ := by
  have skipped : Cut.Skips opensGroup (frontTokens front ++ signs.map Sign.token) := by
    refine (skips_frontTokens (fun x hx => ?_) fun x _ rest => ?_).append
      (skips_signs opensGroup_sign signs)
    · exact skips_atom opensGroup_sign (opensGroup_lead (h x hx))
    · cases x.2 <;> rfl
  have spelled : (⟨⟨signs, .group e⟩, later⟩ : Chain).tokens = signs.map Sign.token ++
      Token.groupOpener :: (e.tokens ++ Token.groupCloser :: laterTokens later) := by
    simp [tokens, SignedAtom.tokens, Atom.tokens]
  rw [tokens_behind, spelled, ← List.append_assoc]
  exact skipped.first?_append Bool.false_ne_true rfl

theorem first?_opensCall {a : Atom} {name : Text} {inside : List Token}
    (parts : a.callParts? = some (name, inside)) (h : ∀ x ∈ front, x.1.atom.callParts? = none) :
    Cut.first? opensCall (behind front ⟨⟨signs, a⟩, later⟩).tokens =
      some ⟨frontTokens front ++ signs.map Sign.token, Token.callOpener name,
        inside ++ Token.callCloser :: laterTokens later⟩ := by
  have skipped : Cut.Skips opensCall (frontTokens front ++ signs.map Sign.token) := by
    refine (skips_frontTokens (fun x hx => ?_) fun x _ rest => ?_).append
      (skips_signs opensCall_sign signs)
    · exact skips_atom opensCall_sign (opensCall_lead (h x hx))
    · cases x.2 <;> rfl
  have spelled : (⟨⟨signs, a⟩, later⟩ : Chain).tokens = signs.map Sign.token ++
      Token.callOpener name :: (inside ++ Token.callCloser :: laterTokens later) := by
    simp [tokens, SignedAtom.tokens, a.tokens_of_callParts parts]
  rw [tokens_behind, spelled, ← List.append_assoc]
  refine skipped.first?_append Bool.false_ne_true ?_
  rw [opensCall, functionName?_callOpener]
  rfl

theorem first?_operates {factors : Bool} {left right : Token} {hl : left.IsOperand}
    {hr : right.IsOperand} {op : Arithmetic} (found : op.isFactor = factors)
    (h : ∀ x ∈ front, x.2.isFactor ≠ factors) :
    Cut.first? (operates factors)
        (behind front ⟨⟨[], .operand left hl⟩, (op, ⟨[], .operand right hr⟩) :: later⟩).tokens =
      some ⟨frontTokens front ++ [left], op.token, right :: laterTokens later⟩ := by
  have skipped : Cut.Skips (operates factors) (frontTokens front ++ [left]) := by
    refine (skips_frontTokens (fun x hx => ?_) fun x hx rest => ?_).append ?_
    · exact skips_atom (fun s => operates_sign s factors) (operates_lead _ factors)
    · rw [operates_token]
      simpa using h x hx
    · exact skips_atom (f := ⟨[], .operand left hl⟩) (fun s => operates_sign s factors)
        (operates_lead _ factors)
  have spelled :
      (behind front ⟨⟨[], .operand left hl⟩, (op, ⟨[], .operand right hr⟩) :: later⟩).tokens =
        frontTokens front ++ [left] ++ op.token :: right :: laterTokens later := by
    rw [tokens_behind, List.append_assoc]
    rfl
  rw [spelled]
  refine skipped.first?_append op.isPart_token.2.2 ?_
  rw [operates_token, found, beq_self_eq_true]

variable {chain : Chain}

theorem first?_signsValue_eq_none (h : ∀ f ∈ chain.factors, ¬ f.SignsValue) :
    Cut.first? signsValue chain.tokens = none := by
  have skips := skips_tokens fun f hf => SignedAtom.skips_signsValue (h f hf)
  refine (skips fun x _ rest => ?_).eq_none
  cases x.1 <;> rfl

theorem first?_opensGroup_eq_none (h : ∀ f ∈ chain.factors, ∀ e, f.atom ≠ .group e) :
    Cut.first? opensGroup chain.tokens = none := by
  refine (skips_tokens (fun f hf => ?_) fun x _ rest => ?_).eq_none
  · exact skips_atom opensGroup_sign (opensGroup_lead (h f hf))
  · cases x.1 <;> rfl

theorem first?_opensCall_eq_none (h : ∀ f ∈ chain.factors, f.atom.callParts? = none) :
    Cut.first? opensCall chain.tokens = none := by
  refine (skips_tokens (fun f hf => ?_) fun x _ rest => ?_).eq_none
  · exact skips_atom opensCall_sign (opensCall_lead (h f hf))
  · cases x.1 <;> rfl

theorem first?_operates_eq_none {factors : Bool} (h : ∀ x ∈ chain.later, x.1.isFactor ≠ factors) :
    Cut.first? (operates factors) chain.tokens = none := by
  refine (skips_tokens (fun f _ => ?_) fun x hx rest => ?_).eq_none
  · exact skips_atom (fun s => operates_sign s factors) (operates_lead _ factors)
  · rw [operates_token]
    simpa using h x hx

end Chain

end JoinSheet
