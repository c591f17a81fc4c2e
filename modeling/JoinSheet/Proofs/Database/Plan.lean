import JoinSheet.Proofs.Database.Transaction
import JoinSheet.Proofs.Success

/-!
# Plans performed in a transaction

What is to be done in a transaction is planned as a list of items. Each item becomes a statement
that may depend on what the statements before it came to. A statement can fail in three ways: it
cannot be built, the database reports a failure, or its answer is not one that can be gone on with.
Either all of the plan is done and committed, or its first failure ends it and it is rolled back.

## Main definitions

* `Statement`, `Plan` — a statement with the reading of its answer, and what is to be done.
* `Plan.Done`, `Plan.Stops` — the exchanges of a plan that is done, and of one that fails.
* `AllOrNothing` — what passes when a plan is made and performed in a transaction.

## Main statements

* `Plan.ends_foldlM` — the statements of a plan end with its success or with its first failure.
* `Plan.ends_perform` — the course of the whole transaction.
* `Plan.allOrNothing` — a plan that is performed in a transaction comes to all or to nothing.
-/

namespace JoinSheet

variable {α β γ ι : Type}

/-- A statement, and what its answer comes to. -/
structure Statement (β : Type) where
  request : Request
  read : request.Reply → Except Error β
  isStatement : request.isStatement := by rfl

namespace Statement

/-- The statement with what its answer comes to mapped. -/
def map (f : β → γ) (s : Statement β) : Statement γ :=
  { s with read := fun reply => (s.read reply).map f }

/-- Send the statement and read its answer. -/
def perform (s : Statement β) : Action β := do
  let reply ← Action.ask s.request
  Action.ofExcept (s.read reply)

theorem perform_map (f : β → γ) (s : Statement β) :
    (s.map f).perform = s.perform >>= fun x => pure (f x) := by
  unfold perform
  rw [bind_assoc]
  refine bind_congr fun reply => ?_
  cases h : s.read reply with
  | error e => simp [map, h, Except.map]; rfl
  | ok x => simp [map, h, Except.map]; rfl

/-- The statement cannot be built, or has an answer that cannot be gone on with. -/
def Breaks (statement : Except Error (Statement β)) (e : Error) : Prop :=
  statement = .error e ∨ ∃ s reply, statement = .ok s ∧ s.read reply = .error e

theorem Breaks.of_map {f : β → γ} {statement : Except Error (Statement β)} {e : Error}
    (h : Breaks (statement.map (map f)) e) : Breaks statement e := by
  obtain unbuilt | ⟨_, reply, built, unread⟩ := h
  · cases statement with
    | error =>
      cases unbuilt
      exact .inl rfl
    | ok s => cases unbuilt
  · obtain ⟨s, rfl, rfl⟩ := Except.map_eq_ok.1 built
    refine .inr ⟨s, reply, rfl, ?_⟩
    cases read : s.read reply with
    | error => simpa [map, read, Except.map] using unread
    | ok => simp [map, read, Except.map] at unread

end Statement

/-- Items that become a statement each, given what the statements before came to. -/
structure Plan (ι β : Type) where
  items : List ι
  start : β
  statement : β → ι → Except Error (Statement β)

namespace Plan

variable {statement : β → ι → Except Error (Statement β)} {b final : β} {items : List ι}
  {log : List Exchange}

/-- The statement of an item built, sent and its answer read. -/
def step (statement : β → ι → Except Error (Statement β)) (b : β) (i : ι) : Action β := do
  (← Action.ofExcept (statement b i)).perform

/-- All statements of a plan performed in one transaction. -/
def perform (p : Plan ι β) : Action β :=
  Action.inTransaction (p.items.foldlM (step p.statement) p.start)

/-- The statements of the items are built, sent and succeed, one after the other. -/
inductive Done (statement : β → ι → Except Error (Statement β)) :
    β → List ι → List Exchange → β → Prop where
  | nil (b : β) : Done statement b [] [] b
  | cons {b next final : β} {i : ι} {items : List ι} {log : List Exchange} {s : Statement β}
      {reply : s.request.Reply} (built : statement b i = .ok s) (read : s.read reply = .ok next)
      (rest : Done statement next items log final) :
      Done statement b (i :: items) (⟨s.request, .ok reply⟩ :: log) final

/-- The statement of an item fails. -/
inductive Fails (statement : Except Error (Statement β)) : List Exchange → Error → Prop where
  /-- It cannot be built, and nothing is sent. -/
  | unbuilt {e : Error} (h : statement = .error e) : Fails statement [] e
  /-- The database reports a failure. -/
  | refused {e : Error} {s : Statement β} (built : statement = .ok s) :
      Fails statement [⟨s.request, .error e⟩] e
  /-- The answer is not one that can be gone on with. -/
  | rejected {e : Error} {s : Statement β} {reply : s.request.Reply} (built : statement = .ok s)
      (read : s.read reply = .error e) : Fails statement [⟨s.request, .ok reply⟩] e

/-- The statements of the items are performed up to the first one that fails. -/
def Stops (statement : β → ι → Except Error (Statement β)) (b : β) (items : List ι)
    (log : List Exchange) (e : Error) : Prop :=
  ∃ before i after first mid last, items = before ++ i :: after ∧
    Done statement b before first mid ∧ Fails (statement mid i) last e ∧ log = first ++ last

/-- A statement that does not fail is followed by what its answer allows. -/
theorem ends_step_bind {i : ι} {f : β → Action γ} {r : Except Error γ} :
    (step statement b i >>= f).Ends log r ↔
      (∃ e, Fails (statement b i) log e ∧ r = .error e) ∨
      ∃ s reply next rest, statement b i = .ok s ∧ s.read reply = .ok next ∧ (f next).Ends rest r ∧
        log = ⟨s.request, .ok reply⟩ :: rest := by
  simp only [step, Statement.perform, bind_assoc, Action.ends_ofExcept_bind, Action.ends_ask_bind]
  constructor
  · rintro (⟨e, unbuilt, rfl, rfl⟩ | ⟨s, built, ⟨e, rfl, rfl⟩ |
      ⟨reply, _, ⟨e, read, rfl, rfl⟩ | ⟨next, read, later⟩, rfl⟩⟩)
    · exact .inl ⟨e, .unbuilt unbuilt, rfl⟩
    · exact .inl ⟨e, .refused built, rfl⟩
    · exact .inl ⟨e, .rejected built read, rfl⟩
    · exact .inr ⟨s, reply, next, _, built, read, later, rfl⟩
  · rintro (⟨e, fails, rfl⟩ | ⟨s, reply, next, rest, built, read, later, rfl⟩)
    · cases fails with
      | unbuilt unbuilt => exact .inl ⟨e, unbuilt, rfl, rfl⟩
      | refused built => exact .inr ⟨_, built, .inl ⟨e, rfl, rfl⟩⟩
      | rejected built read => exact .inr ⟨_, built, .inr ⟨_, [], .inl ⟨e, read, rfl, rfl⟩, rfl⟩⟩
    · exact .inr ⟨s, built, .inr ⟨reply, rest, .inr ⟨next, read, later⟩, rfl⟩⟩

theorem done_cons {i : ι} : Done statement b (i :: items) log final ↔
    ∃ s reply next rest, statement b i = .ok s ∧ s.read reply = .ok next ∧
      Done statement next items rest final ∧ log = ⟨s.request, .ok reply⟩ :: rest := by
  constructor
  · intro done
    cases done with
    | cons built read rest => exact ⟨_, _, _, _, built, read, rest, rfl⟩
  · rintro ⟨s, reply, next, rest, built, read, done, rfl⟩
    exact .cons built read done

theorem stops_cons {i : ι} {e : Error} : Stops statement b (i :: items) log e ↔
    Fails (statement b i) log e ∨ ∃ s reply next rest, statement b i = .ok s ∧
      s.read reply = .ok next ∧ Stops statement next items rest e ∧
      log = ⟨s.request, .ok reply⟩ :: rest := by
  constructor
  · rintro ⟨before, j, after, first, mid, last, split, done, fails, rfl⟩
    cases done with
    | nil =>
      cases split
      exact .inl fails
    | cons built read rest =>
      obtain ⟨rfl, rfl⟩ := List.cons.inj split
      exact .inr ⟨_, _, _, _, built, read, ⟨_, j, after, _, mid, last, rfl, rest, fails, rfl⟩, rfl⟩
  · rintro (fails | ⟨s, reply, next, _, built, read, ⟨before, j, after, first, mid, last, rfl, done,
      fails, rfl⟩, rfl⟩)
    · exact ⟨[], i, items, [], b, log, rfl, .nil b, fails, rfl⟩
    · exact ⟨i :: before, j, after, _, mid, last, rfl, .cons built read done, fails, rfl⟩

/-- The statements of a plan end with its success or with its first failure. -/
theorem ends_foldlM {r : Except Error β} : (items.foldlM (step statement) b).Ends log r ↔
    (∃ final, Done statement b items log final ∧ r = .ok final) ∨
    ∃ e, Stops statement b items log e ∧ r = .error e := by
  -- One statement after the other: it fails, or the rest goes on from what its answer comes to.
  induction items generalizing b log with
  | nil =>
    rw [List.foldlM_nil, Action.ends_pure]
    constructor
    · rintro ⟨rfl, rfl⟩
      exact .inl ⟨b, .nil b, rfl⟩
    · rintro (⟨_, ⟨⟩, rfl⟩ | ⟨e, ⟨before, i, after, _, _, _, split, _⟩, rfl⟩)
      · exact ⟨rfl, rfl⟩
      · simp at split
  | cons i items ih =>
    rw [List.foldlM_cons, ends_step_bind]
    simp only [ih, done_cons, stops_cons]
    constructor
    · rintro (⟨e, fails, rfl⟩ |
        ⟨s, reply, next, rest, built, read, ⟨final, done, rfl⟩ | ⟨e, stops, rfl⟩, rfl⟩)
      · exact .inr ⟨e, .inl fails, rfl⟩
      · exact .inl ⟨final, ⟨s, reply, next, rest, built, read, done, rfl⟩, rfl⟩
      · exact .inr ⟨e, .inr ⟨s, reply, next, rest, built, read, stops, rfl⟩, rfl⟩
    · rintro (⟨final, ⟨s, reply, next, rest, built, read, done, rfl⟩, rfl⟩ |
        ⟨e, fails | ⟨s, reply, next, rest, built, read, stops, rfl⟩, rfl⟩)
      · exact .inr ⟨s, reply, next, rest, built, read, .inl ⟨final, done, rfl⟩, rfl⟩
      · exact .inl ⟨e, fails, rfl⟩
      · exact .inr ⟨s, reply, next, rest, built, read, .inr ⟨e, stops, rfl⟩, rfl⟩

/-! ## All or nothing -/

theorem Done.isStatement (done : Done statement b items log final) :
    ∀ x ∈ log, x.request.isStatement := by
  induction done with
  | nil => simp
  | @cons _ _ _ _ _ _ s _ _ _ _ ih => exact List.forall_mem_cons.2 ⟨s.isStatement, ih⟩

theorem Stops.isStatement {e : Error} (stops : Stops statement b items log e) :
    ∀ x ∈ log, x.request.isStatement := by
  obtain ⟨_, _, _, first, _, last, -, done, fails, rfl⟩ := stops
  have failing : ∀ x ∈ last, x.request.isStatement := by
    cases fails with
    | unbuilt => simp
    | @refused _ s _ => simpa using s.isStatement
    | @rejected _ s _ _ _ => simpa using s.isStatement
  exact List.forall_mem_append.2 ⟨done.isStatement, failing⟩

theorem ends_foldlM_ok : (items.foldlM (step statement) b).Ends log (.ok final) ↔
    Done statement b items log final := by
  simp [ends_foldlM]

theorem ends_foldlM_error {e : Error} : (items.foldlM (step statement) b).Ends log (.error e) ↔
    Stops statement b items log e := by
  simp [ends_foldlM]

/-- The exchanges of a plan that is done are not those of one that fails. -/
theorem Done.not_stops {e : Error} (done : Done statement b items log final) :
    ¬Stops statement b items log e := by
  intro stops
  cases (ends_foldlM_ok.2 done).unique (ends_foldlM_error.2 stops)

/-- The course of a plan that is performed in a transaction. -/
theorem ends_perform {p : Plan ι β} {r : Except Error β} : p.perform.Ends log r ↔
    (∃ e, log = [⟨.begin, .error e⟩] ∧ r = .error e) ∨
    (∃ statements final answer, Done p.statement p.start p.items statements final ∧
      log = ⟨.begin, .ok ()⟩ :: statements ++ [⟨.commit, answer⟩] ∧
      r = answer.map fun _ => final) ∨
    (∃ statements e answer, Stops p.statement p.start p.items statements e ∧
      log = ⟨.begin, .ok ()⟩ :: statements ++ [⟨.rollback, answer⟩] ∧
      r = answer.bind fun _ => .error e) := by
  rw [perform, Action.ends_inTransaction]
  simp only [ends_foldlM_ok, ends_foldlM_error]

end Plan

/-! ## All or nothing -/

/-- A transaction has been begun, then `statements` were sent, then `last` has been its end. -/
structure IsTransaction (log statements : List Exchange) (last : Exchange) : Prop where
  log_eq : log = ⟨.begin, .ok ()⟩ :: statements ++ [last]
  isStatement : ∀ x ∈ statements, x.request.isStatement
  isEnd : last.request = .commit ∨ last.request = .rollback

namespace IsTransaction

variable {log statements : List Exchange} {last : Exchange}

theorem unique (t : IsTransaction log statements last) {statements' : List Exchange}
    {last' : Exchange} (t' : IsTransaction log statements' last') : statements = statements' := by
  have same := t.log_eq.symm.trans t'.log_eq
  exact (List.cons.inj (List.append_inj_left' same rfl)).2

theorem eq_last (t : IsTransaction log statements last) {x : Exchange} (mem : x ∈ log)
    (ends : x.request = .commit ∨ x.request = .rollback) : x = last := by
  rw [t.log_eq, List.mem_append, List.mem_cons, List.mem_singleton] at mem
  obtain (rfl | mem) | rfl := mem
  · obtain h | h := ends <;> cases h
  · have := t.isStatement x mem
    obtain h | h := ends <;> rw [h] at this <;> cases this
  · rfl

theorem ne_nil (t : IsTransaction log statements last) : log ≠ [] := by simp [t.log_eq]

theorem not_singleton (x : Exchange) : ¬IsTransaction [x] statements last := by
  intro t
  have := congrArg List.length t.log_eq
  simp at this

theorem last_mem (t : IsTransaction log statements last) : last ∈ log := by simp [t.log_eq]

theorem countP_begin (t : IsTransaction log statements last) :
    log.countP (·.request = .begin) = 1 := by
  have inside : statements.countP (·.request = .begin) = 0 := by
    rw [List.countP_eq_zero]
    intro x mem begins
    have := t.isStatement x mem
    rw [of_decide_eq_true begins] at this
    cases this
  have outside : last.request ≠ .begin := by
    rintro begins
    obtain h | h := t.isEnd <;> cases h.symm.trans begins
  simp [t.log_eq, List.countP_append, inside, outside]

end IsTransaction

/-- What passes when a plan is made and performed in a transaction: `refused` are the failures
without a plan. -/
structure AllOrNothing (refused : Error → Prop) (plan : Except Error (Plan ι β))
    (log : List Exchange) (result : Except Error α) : Prop where
  /-- Exactly what is refused is refused before anything is asked. -/
  nil_iff : log = [] ↔ ∃ e, refused e
  reported : log = [] → ∃ e, refused e ∧ result = .error e
  course : log = [] ∨ (∃ e, log = [⟨.begin, .error e⟩]) ∨
    ∃ statements last, IsTransaction log statements last
  begin_le_one : log.countP (·.request = .begin) ≤ 1
  /-- A commit is attempted exactly if all statements have been built and have succeeded. -/
  commit_iff : (∃ x ∈ log, x.request = .commit) ↔
    ∃ p statements last final, plan = .ok p ∧ IsTransaction log statements last ∧
      Plan.Done p.statement p.start p.items statements final
  /-- After the first failure nothing is sent but the rollback. -/
  rollback_iff : (∃ x ∈ log, x.request = .rollback) ↔
    ∃ p statements last e, plan = .ok p ∧ IsTransaction log statements last ∧
      Plan.Stops p.statement p.start p.items statements e
  isOk_iff : result.isOk ↔ ⟨.commit, .ok ()⟩ ∈ log

namespace Plan

/-- A plan is made, performed in a transaction, and its result is told. -/
def carryOut (plan : Except Error (Plan ι β)) (tell : Plan ι β → β → α) : Action α := do
  let p ← Action.ofExcept plan
  let final ← p.perform
  return tell p final

theorem carryOut_bind {γ : Type} (e : Except Error γ) (plan : γ → Except Error (Plan ι β))
    (tell : Plan ι β → β → α) :
    carryOut (e >>= plan) tell = Action.ofExcept e >>= fun x => carryOut (plan x) tell := by
  cases e <;> rfl

/-- Why a plan that is carried out fails: it could not be made, the database has reported the
failure, or a statement could not be built or its answer not be gone on with. -/
theorem cause_of_carryOut {plan : Except Error (Plan ι β)} {tell : Plan ι β → β → α}
    {log : List Exchange} {e : Error} (h : (carryOut plan tell).Ends log (.error e)) :
    plan = .error e ∨ (∃ x ∈ log, x.answer = .error e) ∨
      ∃ p b i, plan = .ok p ∧ Statement.Breaks (p.statement b i) e := by
  rw [carryOut, Action.ends_ofExcept_bind] at h
  obtain ⟨_, rfl, -, ⟨⟩⟩ | ⟨p, rfl, h⟩ := h
  · exact .inl rfl
  refine .inr ?_
  have performed : p.perform.Ends log (.error e) := by
    obtain ⟨_, failed, ⟨⟩⟩ | ⟨_, _, _, _, told, -⟩ := Action.ends_bind.1 h
    · exact failed
    · obtain ⟨-, ⟨⟩⟩ := Action.ends_pure.1 told
  obtain ⟨_, rfl, ⟨⟩⟩ | ⟨_, _, answer, -, rfl, failed⟩ | ⟨_, e', answer, stops, rfl, failed⟩ :=
    ends_perform.1 performed
  · exact .inl ⟨_, List.mem_singleton_self _, rfl⟩
  · cases answer with
    | ok => cases failed
    | error e' =>
      cases failed
      exact .inl ⟨⟨.commit, .error e⟩, by simp, rfl⟩
  · cases answer with
    | error e' =>
      cases failed
      exact .inl ⟨⟨.rollback, .error e⟩, by simp, rfl⟩
    | ok =>
      cases failed
      obtain ⟨_, i, _, first, mid, last, -, -, fails, rfl⟩ := stops
      cases fails with
      | unbuilt unbuilt => exact .inr ⟨p, mid, i, rfl, .inl unbuilt⟩
      | @refused _ s _ => exact .inl ⟨⟨s.request, .error e⟩, by simp, rfl⟩
      | rejected built read => exact .inr ⟨p, mid, i, rfl, .inr ⟨_, _, built, read⟩⟩

/-- A plan that is performed in a transaction comes to all or to nothing. `refused` has to be
exactly what there is no plan for. -/
theorem allOrNothing {refused : Error → Prop} {plan : Except Error (Plan ι β)}
    {tell : Plan ι β → β → α} (sound : ∀ e, plan = .error e → refused e)
    (complete : ∀ p, plan = .ok p → ∀ e, ¬refused e) {log : List Exchange} {r : Except Error α}
    (h : (carryOut plan tell).Ends log r) : AllOrNothing refused plan log r := by
  rw [carryOut, Action.ends_ofExcept_bind] at h
  obtain ⟨e, rfl, rfl, rfl⟩ | ⟨p, rfl, h⟩ := h
  · have refusal := sound e rfl
    constructor <;> simp [Except.isOk, Except.toBool]
    · exact ⟨e, refusal⟩
    · exact refusal
  have planned : ¬∃ e, refused e := fun ⟨e, refusal⟩ => complete p rfl e refusal
  have performed : ∃ r', p.perform.Ends log r' ∧ r = r'.map (tell p) := by
    obtain ⟨e, failed, rfl⟩ | ⟨x, _, _, ended, told, rfl⟩ := Action.ends_bind.1 h
    · exact ⟨_, failed, rfl⟩
    · obtain ⟨rfl, rfl⟩ := Action.ends_pure.1 told
      exact ⟨_, by simpa using ended, rfl⟩
  obtain ⟨_, performed, rfl⟩ := performed
  -- The transaction was not begun, or all was done, or the plan was stopped.
  obtain ⟨e, rfl, rfl⟩ | ⟨statements, final, answer, done, shape, rfl⟩ |
    ⟨statements, e, answer, stops, shape, rfl⟩ := ends_perform.1 performed
  · constructor
    case nil_iff => exact iff_of_false (by simp) planned
    case course => exact .inr (.inl ⟨e, rfl⟩)
    case commit_iff =>
      exact iff_of_false (by simp) fun ⟨_, _, _, _, _, t, _⟩ => IsTransaction.not_singleton _ t
    case rollback_iff =>
      exact iff_of_false (by simp) fun ⟨_, _, _, _, _, t, _⟩ => IsTransaction.not_singleton _ t
    all_goals simp [Except.map, Except.isOk, Except.toBool]
  · have t : IsTransaction log statements ⟨.commit, answer⟩ := ⟨shape, done.isStatement, .inl rfl⟩
    constructor
    case nil_iff => exact iff_of_false t.ne_nil planned
    case reported => exact fun empty => absurd empty t.ne_nil
    case course => exact .inr (.inr ⟨_, _, t⟩)
    case begin_le_one => exact Nat.le_of_eq t.countP_begin
    case commit_iff => exact iff_of_true ⟨_, t.last_mem, rfl⟩ ⟨p, _, _, final, rfl, t, done⟩
    case rollback_iff =>
      refine iff_of_false ?_ ?_
      · rintro ⟨x, mem, rolled⟩
        rw [t.eq_last mem (.inr rolled)] at rolled
        cases rolled
      · rintro ⟨_, _, _, e, ⟨⟩, t', stops⟩
        exact done.not_stops (t.unique t' ▸ stops)
    case isOk_iff =>
      cases answer with
      | ok => exact iff_of_true rfl t.last_mem
      | error e =>
        refine iff_of_false Bool.false_ne_true fun mem => ?_
        cases t.eq_last mem (.inl rfl)
  · have t : IsTransaction log statements ⟨.rollback, answer⟩ :=
      ⟨shape, stops.isStatement, .inr rfl⟩
    constructor
    case nil_iff => exact iff_of_false t.ne_nil planned
    case reported => exact fun empty => absurd empty t.ne_nil
    case course => exact .inr (.inr ⟨_, _, t⟩)
    case begin_le_one => exact Nat.le_of_eq t.countP_begin
    case commit_iff =>
      refine iff_of_false ?_ ?_
      · rintro ⟨x, mem, committed⟩
        rw [t.eq_last mem (.inl committed)] at committed
        cases committed
      · rintro ⟨_, _, _, final, ⟨⟩, t', done⟩
        exact done.not_stops (t'.unique t ▸ stops)
    case rollback_iff => exact iff_of_true ⟨_, t.last_mem, rfl⟩ ⟨p, _, _, e, rfl, t, stops⟩
    case isOk_iff =>
      refine iff_of_false (by cases answer <;> exact Bool.false_ne_true) fun mem => ?_
      cases t.eq_last mem (.inl rfl)

end Plan

end JoinSheet
