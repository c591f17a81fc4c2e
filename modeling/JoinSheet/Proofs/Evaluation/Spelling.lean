import JoinSheet.Proofs.Evaluation.Expression
import JoinSheet.Proofs.Formula.Nesting

/-!
# How expressions are spelled

The parentheses of the tokens of an expression match, and neither a comparison nor a comma stands
outside of them. So the tokens of a call and of a condition can be taken apart again.

## Main definitions

* `Token.IsPart` — the tokens that may stand in an expression outside of all parentheses.
* `Atom.lead` — the token that an atom starts with.
* `Arguments.toList` — the arguments of a call as a list.
-/

namespace JoinSheet

/-- Tokens that may stand in an expression outside of all parentheses. -/
def Token.IsPart (t : Token) : Prop := ¬ t.isComparison ∧ t.kind ≠ .separator

namespace Balanced

/-- A token that is no parenthesis, in front of tokens whose parentheses match. -/
theorem part {t : Token} {ts : List Token} (h : t.IsPart ∧ ¬ t.isOpening ∧ ¬ t.isClosing)
    (rest : Balanced Token.IsPart ts) : Balanced Token.IsPart (t :: ts) :=
  .token h.1 h.2.1 h.2.2 rest

/-- Tokens whose parentheses match, between the parentheses of a group. -/
theorem between {q : Token → Prop} {opener closer : Token} {inside : List Token} (holds : q opener)
    (opens : opener.isOpening) (closes : closer.isClosing) (noComma : closer.kind ≠ .separator)
    (nested : Balanced (fun _ => True) inside) : Balanced q (opener :: inside ++ [closer]) :=
  .group holds opens closes noComma nested .nil

end Balanced

theorem Sign.isPart_token (s : Sign) :
    s.token.IsPart ∧ ¬ s.token.isOpening ∧ ¬ s.token.isClosing := by
  cases s <;> exact ⟨⟨nofun, nofun⟩, nofun, nofun⟩

theorem Arithmetic.isPart_token (op : Arithmetic) :
    op.token.IsPart ∧ ¬ op.token.isOpening ∧ ¬ op.token.isClosing := by
  cases op <;> exact ⟨⟨nofun, nofun⟩, nofun, nofun⟩

theorem Token.IsOperand.isPart {t : Token} (h : t.IsOperand) : t.IsPart := by
  have valued := h.1
  simp only [Token.isValue, Bool.or_eq_true, decide_eq_true_eq] at valued
  obtain kind | kind := valued <;> simp [IsPart, isComparison, kind]

/-- The token that an atom starts with. Its other tokens are not at the top level. -/
def Atom.lead : Atom → Token
  | .operand t _ => t
  | .group _ => Token.groupOpener
  | .call name _ => Token.callOpener name
  | .compare name _ _ _ _ _ => Token.callOpener name

theorem Atom.isPart_lead (a : Atom) : a.lead.IsPart := by
  cases a with
  | operand t isOperand => exact isOperand.isPart
  | group e => exact ⟨nofun, nofun⟩
  | call name arguments => exact ⟨nofun, nofun⟩
  | compare name isIf left relation right arguments => exact ⟨nofun, nofun⟩

mutual

theorem Expression.balanced_tokens : (e : Expression) → Balanced Token.IsPart e.tokens
  | .signed sign rest => .part sign.isPart_token rest.balanced_tokens
  | .sum s => s.balanced_tokens

theorem Summation.balanced_tokens : (s : Summation) → Balanced Token.IsPart s.tokens
  | .term t => t.balanced_tokens
  | .more left op _ right =>
    left.balanced_tokens.append (.part op.isPart_token right.balanced_tokens)

theorem Term.balanced_tokens {p : Place} : (t : Term p) → Balanced Token.IsPart t.tokens
  | .factor f => f.balanced_tokens
  | .more left op _ right =>
    left.balanced_tokens.append (.part op.isPart_token right.balanced_tokens)

theorem Factor.balanced_tokens {p : Place} : (f : Factor p) → Balanced Token.IsPart f.tokens
  | .atom a => a.balanced_of_lead a.isPart_lead
  | .signed sign f => .part sign.isPart_token f.balanced_tokens

theorem Atom.balanced_of_lead {q : Token → Prop} :
    (a : Atom) → q a.lead → Balanced q a.tokens
  | .operand _ isOperand, h => .token h isOperand.2.1 isOperand.2.2 .nil
  | .group e, h => .between h rfl rfl nofun (e.balanced_tokens.mono fun _ _ => trivial)
  | .call _ arguments, h => .between h rfl rfl nofun arguments.balanced_tokens
  | .compare _ _ left relation right arguments, h => by
    refine .between h rfl rfl nofun (.append (.append ?_ (.token trivial ?_ ?_ ?_)) ?_)
    · exact left.balanced_tokens.mono fun _ _ => trivial
    · exact nofun
    · exact nofun
    · exact right.balanced_tokens.mono fun _ _ => trivial
    · exact arguments.balanced_laterTokens

theorem Arguments.balanced_tokens : (as : Arguments) → Balanced (fun _ => True) as.tokens
  | .nil => .nil
  | .cons e rest => (e.balanced_tokens.mono fun _ _ => trivial).append rest.balanced_laterTokens

theorem Arguments.balanced_laterTokens : (as : Arguments) → Balanced (fun _ => True) as.laterTokens
  | .nil => .nil
  | .cons e rest =>
    .token trivial nofun nofun
      ((e.balanced_tokens.mono fun _ _ => trivial).append rest.balanced_laterTokens)

end

/-! ## Blanks -/

theorem Token.IsOperand.kind_ne_blank {t : Token} (h : t.IsOperand) : t.kind ≠ .blank := by
  intro kind
  have valued := h.1
  simp [Token.isValue, kind] at valued

mutual

theorem Expression.kind_ne_blank : (e : Expression) → ∀ t ∈ e.tokens, t.kind ≠ .blank
  | .signed sign rest =>
    List.forall_mem_cons.2 ⟨by cases sign <;> exact nofun, rest.kind_ne_blank⟩
  | .sum s => s.kind_ne_blank

theorem Summation.kind_ne_blank : (s : Summation) → ∀ t ∈ s.tokens, t.kind ≠ .blank
  | .term t => t.kind_ne_blank
  | .more left _ _ right => List.forall_mem_append.2
    ⟨left.kind_ne_blank, List.forall_mem_cons.2 ⟨nofun, right.kind_ne_blank⟩⟩

theorem Term.kind_ne_blank {p : Place} : (x : Term p) → ∀ t ∈ x.tokens, t.kind ≠ .blank
  | .factor f => f.kind_ne_blank
  | .more left _ _ right => List.forall_mem_append.2
    ⟨left.kind_ne_blank, List.forall_mem_cons.2 ⟨nofun, right.kind_ne_blank⟩⟩

theorem Factor.kind_ne_blank {p : Place} : (f : Factor p) → ∀ t ∈ f.tokens, t.kind ≠ .blank
  | .atom a => a.kind_ne_blank
  | .signed sign f =>
    List.forall_mem_cons.2 ⟨by cases sign <;> exact nofun, f.kind_ne_blank⟩

theorem Atom.kind_ne_blank : (a : Atom) → ∀ t ∈ a.tokens, t.kind ≠ .blank
  | .operand _ isOperand => List.forall_mem_singleton.2 isOperand.kind_ne_blank
  | .group e => List.forall_mem_cons.2 ⟨nofun, List.forall_mem_append.2
    ⟨e.kind_ne_blank, List.forall_mem_singleton.2 nofun⟩⟩
  | .call _ arguments => List.forall_mem_cons.2 ⟨nofun, List.forall_mem_append.2
    ⟨arguments.kind_ne_blank, List.forall_mem_singleton.2 nofun⟩⟩
  | .compare _ _ left _ right arguments => List.forall_mem_cons.2 ⟨nofun, List.forall_mem_append.2
    ⟨List.forall_mem_append.2 ⟨List.forall_mem_append.2
      ⟨left.kind_ne_blank, List.forall_mem_cons.2 ⟨nofun, right.kind_ne_blank⟩⟩,
      arguments.kind_ne_blank_later⟩, List.forall_mem_singleton.2 nofun⟩⟩

theorem Arguments.kind_ne_blank : (as : Arguments) → ∀ t ∈ as.tokens, t.kind ≠ .blank
  | .nil => nofun
  | .cons e rest => List.forall_mem_append.2 ⟨e.kind_ne_blank, rest.kind_ne_blank_later⟩

theorem Arguments.kind_ne_blank_later : (as : Arguments) → ∀ t ∈ as.laterTokens, t.kind ≠ .blank
  | .nil => nofun
  | .cons e rest => List.forall_mem_cons.2
    ⟨nofun, List.forall_mem_append.2 ⟨e.kind_ne_blank, rest.kind_ne_blank_later⟩⟩

end

/-! ## What an argument consists of -/

theorem Atom.tokens_ne_nil (a : Atom) : a.tokens ≠ [] := by
  cases a <;> simp [tokens]

theorem Factor.tokens_ne_nil {p : Place} (f : Factor p) : f.tokens ≠ [] := by
  cases f with
  | atom a => exact a.tokens_ne_nil
  | signed sign f => exact List.cons_ne_nil _ _

theorem Term.tokens_ne_nil {p : Place} (t : Term p) : t.tokens ≠ [] := by
  cases t with
  | factor f => exact f.tokens_ne_nil
  | more left op isFactor right => simp [tokens]

theorem Summation.tokens_ne_nil (s : Summation) : s.tokens ≠ [] := by
  cases s with
  | term t => exact t.tokens_ne_nil
  | more left op isSum right => simp [tokens]

theorem Expression.tokens_ne_nil (e : Expression) : e.tokens ≠ [] := by
  cases e with
  | signed sign rest => exact List.cons_ne_nil _ _
  | sum s => exact s.tokens_ne_nil

theorem loneRange?_eq_none {tokens : List Token} (h : tokens.length ≠ 1) :
    loneRange? tokens = none := by
  match tokens with
  | [] => rfl
  | [_] => exact absurd rfl h
  | _ :: _ :: _ => rfl

/-- Only an operand by itself is spelled by a single token. -/
theorem Expression.loneRange?_tokens (e : Expression) : loneRange? e.tokens = e.reference? := by
  cases e with
  | signed sign rest =>
    refine loneRange?_eq_none ?_
    simpa [tokens] using rest.tokens_ne_nil
  | sum s =>
    cases s with
    | more left op isSum right =>
      refine loneRange?_eq_none ?_
      have := List.length_pos_iff.2 left.tokens_ne_nil
      simp only [tokens, Summation.tokens, List.length_append, List.length_cons]
      omega
    | term t =>
      cases t with
      | more left op isFactor right =>
        refine loneRange?_eq_none ?_
        have := List.length_pos_iff.2 left.tokens_ne_nil
        simp only [tokens, Summation.tokens, Term.tokens, List.length_append, List.length_cons]
        omega
      | factor f =>
        cases f with
        | atom a =>
          cases a with
          | operand t isOperand => rfl
          | group e => exact loneRange?_eq_none (by simp [tokens, Summation.tokens, Term.tokens,
              Factor.tokens, Atom.tokens])
          | call name arguments => exact loneRange?_eq_none (by simp [tokens, Summation.tokens,
              Term.tokens, Factor.tokens, Atom.tokens])
          | compare name isIf left relation right arguments =>
            exact loneRange?_eq_none (by simp [tokens, Summation.tokens, Term.tokens, Factor.tokens,
              Atom.tokens])

/-- An expression is no comparison. -/
theorem Expression.skips_isComparison (e : Expression) :
    Cut.Skips (fun t _ => t.isComparison) e.tokens :=
  Cut.skips_of_balanced e.balanced_tokens fun _ _ h => Bool.not_eq_true _ ▸ h.1

/-- A comparison is found between the expressions that are compared. -/
theorem Relation.first?_isComparison (left : Expression) (relation : Relation)
    (right : Expression) :
    Cut.first? (fun t _ => t.isComparison) (left.tokens ++ relation.token :: right.tokens) =
      some ⟨left.tokens, relation.token, right.tokens⟩ := by
  have notClosing : ¬ relation.token.isClosing := nofun
  exact left.skips_isComparison.first?_append notClosing rfl

/-! ## Arguments -/

/-- The arguments of a call. -/
def Arguments.toList : Arguments → List Expression
  | .nil => []
  | .cons e rest => e :: rest.toList

namespace Arguments

theorem values_eq_map (scope : Scope) (as : Arguments) :
    as.values scope =
      as.toList.map fun e => .ofValue e.reference? fun _ => e.value scope := by
  match as with
  | .nil => rfl
  | .cons e rest => rw [values, toList, List.map_cons, values_eq_map scope rest]

/-- Arguments after other tokens are separated from them. -/
theorem splitArgumentsFrom_laterTokens {xs : List Token}
    (hx : Balanced (fun t => t.kind ≠ .separator) xs) (as : Arguments) :
    splitArgumentsFrom 0 (xs ++ as.laterTokens) = xs :: as.toList.map Expression.tokens := by
  rw [splitArgumentsFrom_append hx fun _ _ h => h]
  match as with
  | .nil => simp [laterTokens, splitArgumentsFrom, extendFirst, toList]
  | .cons e rest =>
    rw [laterTokens, List.cons_append, splitArgumentsFrom_comma,
      splitArgumentsFrom_laterTokens (e.balanced_tokens.mono fun _ h => h.2)]
    simp [extendFirst, toList]

/-- The arguments of a call can be told from its tokens. -/
theorem splitArguments_tokens (as : Arguments) :
    splitArguments as.tokens = as.toList.map Expression.tokens := by
  cases as with
  | nil => rfl
  | cons e rest =>
    rw [splitArguments, if_neg (by simp [tokens, e.tokens_ne_nil]), tokens,
      splitArgumentsFrom_laterTokens (e.balanced_tokens.mono fun _ h => h.2)]
    rfl

/-- A comparison is an argument by itself. -/
theorem splitArguments_compare (left : Expression) (relation : Relation) (right : Expression)
    (as : Arguments) :
    splitArguments (left.tokens ++ relation.token :: right.tokens ++ as.laterTokens) =
      (left.tokens ++ relation.token :: right.tokens) :: as.toList.map Expression.tokens := by
  have whole : Balanced (fun t => t.kind ≠ .separator)
      (left.tokens ++ relation.token :: right.tokens) :=
    (left.balanced_tokens.mono fun _ h => h.2).append
      (.token nofun nofun nofun (right.balanced_tokens.mono fun _ h => h.2))
  rw [splitArguments, if_neg (by simp), splitArgumentsFrom_laterTokens whole]

end Arguments

end JoinSheet
