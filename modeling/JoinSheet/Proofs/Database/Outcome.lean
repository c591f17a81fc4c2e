import JoinSheet.Database.Dialogue

/-!
# Outcomes of actions

Two actions that ask the same requests in different orders may fail for different reasons, but a
database whose answers depend on the requests alone cannot tell apart whether they succeed, and with
what result. The outcome of an action is what is left of its result then. Outcomes compose as
actions do, and the order in which two of them are computed does not matter.

## Main definitions

* `Answers`, `Dialogue.answered` — a database without a state, and the result of a dialogue with it.
* `Action.outcome` — the result of an action with such a database, if the action succeeds.
* `Action.Ensures` — all outcomes of an action satisfy a predicate.
* `Action.result` — the result of an action with any database.
* `Action.Asks` — all requests that an action can make satisfy a predicate.
-/

namespace JoinSheet

variable {α β σ : Type}

/-- What a database answers to each request, if that never changes. -/
abbrev Answers := (r : Request) → Outcome r

namespace Dialogue

/-- The result of a dialogue whose requests are always answered in the same way. -/
def answered (answers : Answers) : Dialogue α → α
  | done a => a
  | ask r next => (next (answers r)).answered answers

@[simp] theorem answered_done (answers : Answers) (a : α) : (done a).answered answers = a := rfl

@[simp] theorem answered_bind (answers : Answers) (d : Dialogue α) (f : α → Dialogue β) :
    (d >>= f).answered answers = (f (d.answered answers)).answered answers := by
  induction d with
  | done a => rfl
  | ask r next ih => exact ih (answers r)

/-- A database that never changes its answers to what a dialogue asks leads to the same result in
every state. -/
theorem run_eq_answered {server : Server σ} {answers : Answers} {d : Dialogue α}
    (h : d.Asks fun r => ∀ s, (server r s).1 = answers r) (s : σ) :
    (d.run server s).1 = d.answered answers := by
  induction d generalizing s with
  | done a => rfl
  | ask r next ih =>
    obtain ⟨same, later⟩ := h
    rw [run_ask, same s]
    exact ih (answers r) (later (answers r)) _

theorem Asks.mono {p q : Request → Prop} {d : Dialogue α} (h : d.Asks p)
    (weaker : ∀ r, p r → q r) : d.Asks q := by
  induction d with
  | done a => trivial
  | ask r next ih => exact ⟨weaker r h.1, fun reply => ih reply (h.2 reply)⟩

end Dialogue

namespace Action

/-! ## Outcomes -/

/-- The result of an action whose requests are always answered in the same way, if it succeeds. -/
def outcome (answers : Answers) (a : Action α) : Option α := (a.run.answered answers).toOption

variable (answers : Answers)

@[simp] theorem outcome_pure (x : α) : outcome answers (pure x : Action α) = some x := rfl

@[simp] theorem outcome_throw (e : Error) : outcome answers (throw e : Action α) = none := rfl

@[simp] theorem outcome_bind (a : Action α) (f : α → Action β) :
    outcome answers (a >>= f) = (outcome answers a).bind fun x => outcome answers (f x) := by
  unfold outcome
  rw [ExceptT.run_bind, Dialogue.answered_bind]
  cases a.run.answered answers <;> rfl

@[simp] theorem outcome_map (f : α → β) (a : Action α) :
    outcome answers (f <$> a) = (outcome answers a).map f := by
  rw [map_eq_pure_bind, outcome_bind]
  cases outcome answers a <;> rfl

@[simp] theorem outcome_liftM (e : Except Error α) :
    outcome answers (liftM e : Action α) = e.toOption := rfl

@[simp] theorem outcome_lift (d : Dialogue α) :
    outcome answers (ExceptT.lift d : Action α) = some (d.answered answers) := by
  rw [outcome, ExceptT.run_lift, map_eq_pure_bind, Dialogue.answered_bind]
  rfl

theorem outcome_mapM (f : α → Action β) (l : List α) :
    outcome answers (l.mapM f) = l.mapM fun a => outcome answers (f a) := by
  induction l with
  | nil => rfl
  | cons a l ih =>
    simp only [List.mapM_cons, outcome_bind, ih]
    rfl

/-- Steps that leave what they start from leave it all together. -/
theorem outcome_foldlM_self {f : β → α → Action β} {l : List α} {b : β}
    (h : ∀ a ∈ l, outcome answers (f b a) = some b) : outcome answers (l.foldlM f b) = some b := by
  induction l with
  | nil => rfl
  | cons a l ih =>
    obtain ⟨head, tail⟩ := List.forall_mem_cons.1 h
    rw [List.foldlM_cons, outcome_bind, head, Option.bind_some]
    exact ih tail

theorem outcome_bind_congr {a a' : Action α} {f g : α → Action β}
    (ha : outcome answers a = outcome answers a')
    (hf : ∀ x, outcome answers (f x) = outcome answers (g x)) :
    outcome answers (a >>= f) = outcome answers (a' >>= g) := by
  rw [outcome_bind, outcome_bind, ha]
  exact congrArg _ (funext hf)

/-- Every outcome of the action satisfies `post`. -/
def Ensures (post : α → Prop) (a : Action α) : Prop := ∀ x, outcome answers a = some x → post x

section Ensures

variable {answers} {post : β → Prop}

theorem ensures_pure {x : β} (h : post x) : Ensures answers post (pure x) := by
  rintro _ ⟨⟩
  exact h

theorem ensures_throw (e : Error) : Ensures answers post (throw e) := by
  rintro _ ⟨⟩

theorem ensures_liftM {e : Except Error β} (h : ∀ x, e = .ok x → post x) :
    Ensures answers post (liftM e) := by
  intro x hx
  cases e with
  | error _ => cases hx
  | ok y =>
    cases hx
    exact h x rfl

theorem ensures_bind {a : Action α} {f : α → Action β}
    (h : ∀ x, outcome answers a = some x → Ensures answers post (f x)) :
    Ensures answers post (a >>= f) := by
  intro y hy
  rw [outcome_bind] at hy
  obtain ⟨x, hx, hy⟩ := Option.bind_eq_some_iff.1 hy
  exact h x hx y hy

theorem ensures_ite {c : Prop} [Decidable c] {a b : Action β} (ha : c → Ensures answers post a)
    (hb : ¬ c → Ensures answers post b) : Ensures answers post (if c then a else b) := by
  split
  · exact ha ‹c›
  · exact hb ‹¬ c›

end Ensures

/-! ## Results -/

/-- The result of an action with a database in some state. -/
def result (server : Server σ) (a : Action α) (s : σ) : Except Error α := (a.run.run server s).1

/-- A computation after an action needs no database. -/
theorem result_bind_liftM (server : Server σ) (a : Action α) (f : α → Except Error β) (s : σ) :
    (a >>= fun x => (liftM (f x) : Action β)).result server s = a.result server s >>= f := by
  unfold result
  rw [ExceptT.run_bind, Dialogue.run_bind]
  cases (a.run.run server s).1 <;> rfl

/-- A loop whose steps need no database. -/
theorem foldlM_liftM (f : β → α → Except Error β) (l : List α) (b : β) :
    l.foldlM (fun b a => (liftM (f b a) : Action β)) b = liftM (l.foldlM f b) := by
  induction l generalizing b with
  | nil => rfl
  | cons a l ih =>
    rw [List.foldlM_cons, List.foldlM_cons]
    cases f b a with
    | error e => rfl
    | ok next => exact ih next

/-! ## Which requests are made -/

/-- Every request that the action can make, whatever the answers are, satisfies `p`. -/
def Asks (p : Request → Prop) (a : Action α) : Prop := a.run.Asks p

variable {answers}

theorem toOption_result {server : Server σ} {a : Action α}
    (h : a.Asks fun r => ∀ s, (server r s).1 = answers r) (s : σ) :
    (a.result server s).toOption = a.outcome answers :=
  congrArg Except.toOption (Dialogue.run_eq_answered h s)

variable {p : Request → Prop}

theorem asks_pure (x : α) : (pure x : Action α).Asks p := trivial

theorem asks_throw (e : Error) : (throw e : Action α).Asks p := trivial

theorem asks_liftM (e : Except Error α) : (liftM e : Action α).Asks p := trivial

theorem asks_ask {r : Request} (h : p r) : (Action.ask r).Asks p := ⟨h, fun _ => trivial⟩

theorem asks_bind {a : Action α} {f : α → Action β} (ha : a.Asks p) (hf : ∀ x, (f x).Asks p) :
    (a >>= f).Asks p := by
  unfold Asks
  rw [ExceptT.run_bind]
  refine Dialogue.asks_bind ha fun result => ?_
  cases result with
  | ok x => exact hf x
  | error e => trivial

theorem asks_lift {d : Dialogue α} (h : d.Asks p) : Asks p (ExceptT.lift d) := by
  unfold Asks
  rw [ExceptT.run_lift, map_eq_pure_bind]
  exact Dialogue.asks_bind h fun _ => trivial

theorem asks_foldlM {f : β → α → Action β} (h : ∀ b a, (f b a).Asks p) (l : List α) (b : β) :
    (l.foldlM f b).Asks p := by
  induction l generalizing b with
  | nil => exact asks_pure b
  | cons a l ih =>
    rw [List.foldlM_cons]
    exact asks_bind (h b a) ih

theorem asks_ite {c : Prop} [Decidable c] {a b : Action α} (ha : c → a.Asks p)
    (hb : ¬ c → b.Asks p) : (if c then a else b).Asks p := by
  split
  · exact ha ‹c›
  · exact hb ‹¬ c›

theorem asks_mapM {f : α → Action β} {l : List α} (h : ∀ a ∈ l, (f a).Asks p) :
    (l.mapM f).Asks p := by
  induction l with
  | nil => exact asks_pure []
  | cons a l ih =>
    rw [List.mapM_cons]
    refine asks_bind (h a List.mem_cons_self) fun b => ?_
    exact asks_bind (ih fun a' ha' => h a' (List.mem_cons_of_mem _ ha')) fun bs => asks_pure _

end Action

end JoinSheet
