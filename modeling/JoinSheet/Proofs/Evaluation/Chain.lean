import JoinSheet.Proofs.Database.Outcome
import JoinSheet.Proofs.Evaluation.Expression

/-!
# Chains

A sum without its structure is a chain of signed atoms with operators between them. The value of a
chain is computed from left to right: what stands before an atom amounts to a sum and a product that
still wait for their last operand. The value of the chain of a sum is the value of the sum.

## Main definitions

* `SignedAtom`, `Chain` — an atom with signs before it, and such atoms with operators between them.
* `Pending` — what waits for the value of the next atom.
* `Chain.outcome` — the outcome of a chain.
* `Chain.behind` — a chain with more in front.
* `Summation.chain` — the chain of a sum.
-/

namespace JoinSheet

/-- An atom with the signs before it, which apply to it alone. -/
structure SignedAtom where
  signs : List Sign
  atom : Atom

/-- Atoms with signs before them, and operators between them. -/
structure Chain where
  first : SignedAtom
  later : List (Arithmetic × SignedAtom)

/-- The tokens that spell a signed atom. -/
def SignedAtom.tokens (f : SignedAtom) : List Token := f.signs.map Sign.token ++ f.atom.tokens

/-- The tokens that spell what comes after the first atom of a chain. -/
def Chain.laterTokens (later : List (Arithmetic × SignedAtom)) : List Token :=
  later.flatMap fun x => x.1.token :: x.2.tokens

/-- The tokens that spell a chain. -/
def Chain.tokens (chain : Chain) : List Token := chain.first.tokens ++ laterTokens chain.later

/-! ## Outcomes -/

/-- What stands before an atom in a chain: a sum and, after it, a product. Each of them ends with
the operator that waits for a value. -/
structure Pending where
  sum : Option (Token × Arithmetic) := none
  product : Option (Token × Arithmetic) := none

namespace Pending

/-- A value with what waits for it. -/
def complete (waiting : Option (Token × Arithmetic)) (y : Token) : Option Token :=
  match waiting with
  | none => some y
  | some (x, op) => (op.combine x y).toOption

/-- What stands before the next atom if `y` and `op` come next. -/
def extend (p : Pending) (y : Token) (op : Arithmetic) : Option Pending :=
  (complete p.product y).bind fun y =>
    if op.isFactor then some { p with product := some (y, op) }
    else (complete p.sum y).map fun x => { sum := some (x, op) }

/-- The value of a chain that ends with `y`. -/
def finish (p : Pending) (y : Token) : Option Token :=
  (complete p.product y).bind (complete p.sum)

end Pending

/-- A value with signs in front, the last of which applies first. -/
def Sign.applyAll (signs : List Sign) (x : Option Token) : Option Token :=
  signs.foldr (fun sign x => x.bind fun x => (applySign sign.token x).toOption) x

theorem Sign.applyAll_eq_bind (signs : List Sign) (x : Option Token) :
    applyAll signs x = x.bind fun x => applyAll signs (some x) := by
  cases x with
  | some x => rfl
  | none =>
    induction signs with
    | nil => rfl
    | cons sign signs ih => simp_all [applyAll]

theorem Sign.applyAll_concat (signs : List Sign) (sign : Sign) (x : Option Token) :
    applyAll (signs ++ [sign]) x =
      applyAll signs (x.bind fun x => (applySign sign.token x).toOption) :=
  List.foldr_append

section Outcome

variable (scope : Scope) (answers : Answers)

/-- The outcome of a signed atom. -/
def SignedAtom.outcome (f : SignedAtom) : Option Token :=
  Sign.applyAll f.signs (Action.outcome answers (f.atom.value scope))

namespace Chain

/-- The outcome of a chain after the value of an atom. -/
def outcomeAfter (p : Pending) (y : Token) : List (Arithmetic × SignedAtom) → Option Token
  | [] => p.finish y
  | (op, f) :: later =>
    (p.extend y op).bind fun p => (f.outcome scope answers).bind fun y => outcomeAfter p y later

/-- The outcome of a chain after what waits for it. -/
def outcomeFrom (p : Pending) (chain : Chain) : Option Token :=
  (chain.first.outcome scope answers).bind fun y => outcomeAfter scope answers p y chain.later

/-- The outcome of a chain. -/
def outcome (chain : Chain) : Option Token := chain.outcomeFrom scope answers {}

/-- A product that waits for a value is one value once it has it. -/
theorem outcomeAfter_product (sum : Option (Token × Arithmetic)) (x : Token) (op : Arithmetic)
    (y : Token) (later : List (Arithmetic × SignedAtom)) :
    outcomeAfter scope answers ⟨sum, some (x, op)⟩ y later =
      (op.combine x y).toOption.bind fun z => outcomeAfter scope answers ⟨sum, none⟩ z later := by
  cases later with
  | nil => rfl
  | cons next later =>
    simp only [outcomeAfter, Pending.extend, Pending.complete, Option.bind_assoc, Option.bind_some]

/-- A sum that waits for a value is one value once it has it, unless a product follows. -/
theorem outcomeAfter_sum (x : Token) (op : Arithmetic) (y : Token)
    {later : List (Arithmetic × SignedAtom)}
    (sums : ∀ next ∈ later.head?, next.1.isFactor = false) :
    outcomeAfter scope answers ⟨some (x, op), none⟩ y later =
      (op.combine x y).toOption.bind fun z => outcomeAfter scope answers {} z later := by
  cases later with
  | nil => simp [outcomeAfter, Pending.finish, Pending.complete]
  | cons next later =>
    have isSum : next.1.isFactor = false := sums next rfl
    cases combined : (op.combine x y).toOption <;>
      simp [outcomeAfter, Pending.extend, Pending.complete, isSum, combined]

end Chain

end Outcome

/-! ## The chain of a sum -/

/-- A factor as a signed atom. -/
def Factor.signedAtom {p : Place} : Factor p → SignedAtom
  | .atom a => ⟨[], a⟩
  | .signed sign f => ⟨sign :: f.signedAtom.signs, f.signedAtom.atom⟩

/-- The chain of a term with more behind it. -/
def Term.chain {p : Place} (t : Term p) (later : List (Arithmetic × SignedAtom)) : Chain :=
  match t with
  | .factor f => ⟨f.signedAtom, later⟩
  | .more left op _ right => left.chain ((op, right.signedAtom) :: later)

/-- The chain of a sum with more behind it. -/
def Summation.chain (s : Summation) (later : List (Arithmetic × SignedAtom)) : Chain :=
  match s with
  | .term t => t.chain later
  | .more left op _ right =>
    left.chain ((op, (right.chain later).first) :: (right.chain later).later)

theorem Factor.tokens_signedAtom {p : Place} : (f : Factor p) → f.signedAtom.tokens = f.tokens
  | .atom a => rfl
  | .signed sign f => congrArg (sign.token :: ·) f.tokens_signedAtom

theorem Term.tokens_chain {p : Place} (t : Term p) (later : List (Arithmetic × SignedAtom)) :
    (t.chain later).tokens = t.tokens ++ Chain.laterTokens later := by
  match t with
  | .factor f => rw [chain, Chain.tokens, f.tokens_signedAtom, tokens]
  | .more left op _ right =>
    rw [chain, left.tokens_chain, tokens, Chain.laterTokens, List.flatMap_cons,
      right.tokens_signedAtom, List.append_assoc]
    rfl

theorem Summation.tokens_chain (s : Summation) (later : List (Arithmetic × SignedAtom)) :
    (s.chain later).tokens = s.tokens ++ Chain.laterTokens later := by
  match s with
  | .term t => exact t.tokens_chain later
  | .more left op _ right =>
    have whole := right.tokens_chain later
    rw [Chain.tokens] at whole
    rw [chain, left.tokens_chain, tokens, Chain.laterTokens, List.flatMap_cons, List.cons_append,
      ← Chain.laterTokens, whole, List.append_assoc, List.cons_append]

/-- The first atom of a chain has no sign at the start of an expression. -/
theorem Term.signs_first_chain (t : Term .first) (later : List (Arithmetic × SignedAtom)) :
    (t.chain later).first.signs = [] := by
  match t with
  | .factor (.atom a) => rfl
  | .more left op _ right => exact left.signs_first_chain _

theorem Summation.signs_first_chain (s : Summation) (later : List (Arithmetic × SignedAtom)) :
    (s.chain later).first.signs = [] := by
  match s with
  | .term t => exact t.signs_first_chain later
  | .more left op _ right => exact left.signs_first_chain _

section Outcome

variable (scope : Scope) (answers : Answers)

theorem Factor.outcome_signedAtom {p : Place} :
    (f : Factor p) → f.signedAtom.outcome scope answers = Action.outcome answers (f.value scope)
  | .atom a => rfl
  | .signed sign f => by
    rw [value, Action.outcome_bind, ← f.outcome_signedAtom]
    rfl

/-- A term is evaluated as its chain is, after a sum that waits for it. -/
theorem Term.outcomeFrom_chain {p : Place} (t : Term p) (sum : Option (Token × Arithmetic))
    (later : List (Arithmetic × SignedAtom)) :
    (t.chain later).outcomeFrom scope answers { sum } =
      (Action.outcome answers (t.value scope)).bind fun y =>
        Chain.outcomeAfter scope answers { sum } y later := by
  match t with
  | .factor f => rw [chain, Chain.outcomeFrom, f.outcome_signedAtom, value]
  | .more left op isFactor right =>
    have waits (x : Token) :
        Chain.outcomeAfter scope answers { sum } x ((op, right.signedAtom) :: later) =
          (Action.outcome answers (right.value scope)).bind fun y =>
            Chain.outcomeAfter scope answers ⟨sum, some (x, op)⟩ y later := by
      simp [Chain.outcomeAfter, Pending.extend, Pending.complete, isFactor,
        right.outcome_signedAtom]
    simp only [chain, left.outcomeFrom_chain, waits, Chain.outcomeAfter_product, value,
      Action.outcome_bind, Action.outcome_liftM, Option.bind_assoc]

/-- A sum is evaluated as its chain is, unless a product follows. -/
theorem Summation.outcomeFrom_chain (s : Summation) {later : List (Arithmetic × SignedAtom)}
    (sums : ∀ next ∈ later.head?, next.1.isFactor = false) :
    (s.chain later).outcomeFrom scope answers {} =
      (Action.outcome answers (s.value scope)).bind fun y =>
        Chain.outcomeAfter scope answers {} y later := by
  match s with
  | .term t => exact t.outcomeFrom_chain scope answers none later
  | .more left op isSum right =>
    have waits (x : Token) : Chain.outcomeAfter scope answers {} x
        ((op, (right.chain later).first) :: (right.chain later).later) =
        (Action.outcome answers (right.value scope)).bind fun y =>
          Chain.outcomeAfter scope answers ⟨some (x, op), none⟩ y later := by
      rw [← right.outcomeFrom_chain scope answers (some (x, op)) later]
      simp [Chain.outcomeAfter, Chain.outcomeFrom, Pending.extend, Pending.complete, isSum]
    have next : ∀ next ∈ ((op, (right.chain later).first) :: (right.chain later).later).head?,
        next.1.isFactor = false := by
      rintro _ ⟨⟩
      exact isSum
    simp only [chain, left.outcomeFrom_chain next, waits, Chain.outcomeAfter_sum _ _ _ _ _ sums,
      value, Action.outcome_bind, Action.outcome_liftM, Option.bind_assoc]

/-- A sum is evaluated as its chain is. -/
theorem Summation.outcome_chain (s : Summation) :
    (s.chain []).outcome scope answers = Action.outcome answers (s.value scope) := by
  rw [Chain.outcome, s.outcomeFrom_chain scope answers (by simp)]
  simp [Chain.outcomeAfter, Pending.finish, Pending.complete]

end Outcome

/-! ## Chains in parts -/

namespace Chain

/-- A chain with more in front. -/
def behind : List (SignedAtom × Arithmetic) → Chain → Chain
  | [], chain => chain
  | (f, op) :: front, chain => ⟨f, (op, (chain.behind front).first) :: (chain.behind front).later⟩

/-- The tokens that spell the front of a chain. -/
def frontTokens (front : List (SignedAtom × Arithmetic)) : List Token :=
  front.flatMap fun x => x.1.tokens ++ [x.2.token]

theorem tokens_cons (f : SignedAtom) (op : Arithmetic) (chain : Chain) :
    tokens ⟨f, (op, chain.first) :: chain.later⟩ = f.tokens ++ op.token :: chain.tokens := rfl

theorem tokens_behind (front : List (SignedAtom × Arithmetic)) (chain : Chain) :
    (chain.behind front).tokens = frontTokens front ++ chain.tokens := by
  induction front with
  | nil => rfl
  | cons x front ih =>
    rw [behind, tokens_cons, ih]
    simp [frontTokens]

/-- Within a chain something can be computed ahead. `q` is what is needed of what waits for it. -/
theorem outcomeFrom_behind {scope : Scope} {answers : Answers} {α : Type} {q : Pending → Prop}
    {chain : Chain} {v : Option α} (chain' : α → Chain)
    (ahead : ∀ p, q p → chain.outcomeFrom scope answers p =
      v.bind fun v => (chain' v).outcomeFrom scope answers p)
    {front : List (SignedAtom × Arithmetic)}
    (leads : ∀ x ∈ front, ∀ p y p', Pending.extend p y x.2 = some p' → q p')
    {p : Pending} (hp : q p) :
    (chain.behind front).outcomeFrom scope answers p =
      v.bind fun v => ((chain' v).behind front).outcomeFrom scope answers p := by
  induction front generalizing p with
  | nil => exact ahead p hp
  | cons x front ih =>
    have step (chain : Chain) : (chain.behind (x :: front)).outcomeFrom scope answers p =
        (x.1.outcome scope answers).bind fun y => (p.extend y x.2).bind fun p =>
          (chain.behind front).outcomeFrom scope answers p := rfl
    simp only [step]
    rw [Option.bind_comm]
    refine congrArg _ (funext fun y => ?_)
    rw [Option.bind_comm]
    cases extended : p.extend y x.2 with
    | none => rfl
    | some p' =>
      exact ih (fun x hx => leads x (List.mem_cons_of_mem _ hx))
        (leads x List.mem_cons_self p y p' extended)

/-- The signed atoms of a chain. -/
def factors (chain : Chain) : List SignedAtom := chain.first :: chain.later.map Prod.snd

theorem factors_behind (front : List (SignedAtom × Arithmetic)) (chain : Chain) :
    (chain.behind front).factors = front.map Prod.fst ++ chain.factors := by
  induction front with
  | nil => rfl
  | cons x front ih =>
    rw [List.map_cons, List.cons_append, ← ih]
    rfl

/-- A chain is free of something, or it has a first place where it is found. -/
theorem exists_behind (q : SignedAtom → Prop) (chain : Chain) :
    (∀ f ∈ chain.factors, ¬ q f) ∨
      ∃ front chain', chain = behind front chain' ∧ q chain'.first ∧ ∀ x ∈ front, ¬ q x.1 := by
  obtain ⟨first, later⟩ := chain
  induction later generalizing first with
  | nil =>
    by_cases h : q first
    · exact .inr ⟨[], _, rfl, h, by simp⟩
    · exact .inl (by simpa [factors] using h)
  | cons next later ih =>
    by_cases h : q first
    · exact .inr ⟨[], _, rfl, h, by simp⟩
    · obtain none | ⟨front, chain', whole, found, before⟩ := ih next.2
      · exact .inl (List.forall_mem_cons.2 ⟨h, none⟩)
      · exact .inr ⟨(first, next.1) :: front, chain', by rw [behind, ← whole], found,
          List.forall_mem_cons.2 ⟨h, before⟩⟩

/-- A chain has no products, or it has a first one. -/
theorem exists_behind_product (chain : Chain) :
    (∀ x ∈ chain.later, x.1.isFactor = false) ∨
      ∃ front f op g later, chain = behind front ⟨f, (op, g) :: later⟩ ∧ op.isFactor = true ∧
        ∀ x ∈ front, x.2.isFactor = false := by
  obtain ⟨first, later⟩ := chain
  induction later generalizing first with
  | nil => exact .inl (by simp)
  | cons next later ih =>
    cases h : next.1.isFactor with
    | true => exact .inr ⟨[], first, next.1, next.2, later, rfl, h, by simp⟩
    | false =>
      obtain none | ⟨front, f, op, g, rest, whole, found, before⟩ := ih next.2
      · exact .inl (List.forall_mem_cons.2 ⟨h, none⟩)
      · exact .inr ⟨(first, next.1) :: front, f, op, g, rest, by rw [behind, ← whole], found,
          List.forall_mem_cons.2 ⟨h, before⟩⟩

end Chain

end JoinSheet
