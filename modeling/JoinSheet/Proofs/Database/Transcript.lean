import JoinSheet.Proofs.Database.Always
import JoinSheet.Proofs.Database.Outcome
import Mathlib.Data.List.Forall2

/-!
# Transcripts

What passes between the engine and a database is a list of requests with their answers. The answers
decide how a dialogue goes on, so the list that a dialogue follows to a result says everything the
database could tell about it. Lists compose as dialogues do.

## Main definitions

* `Exchange` — a request and its answer.
* `SameAnswers` — two databases that answer queries alike.
* `Dialogue.transcript`, `Action.transcript` — what passes when a dialogue is held with a database.
* `Dialogue.Follows`, `Action.Follows` — the exchanges that lead a dialogue to a result.
* `Dialogue.Answered` — the exchanges that a database answers.
* `LeadsBy`, `AsksOnly` — the exchanges that lead an action on a state to success, and what it may ask.
-/

namespace JoinSheet

variable {α β σ : Type}

/-- A request and its answer. -/
structure Exchange where
  request : Request
  answer : Outcome request

/-- The databases `server` and `server'`, in the states `d` and `d'`, give the same answers to queries,
whatever has been queried before. -/
def SameAnswers {σ' : Type} (server : Server σ) (d : σ) (server' : Server σ') (d' : σ') : Prop :=
  ∃ R : σ → σ' → Prop, R d d' ∧ ∀ s s', R s s' → ∀ sql params,
    (server' (.query sql params) s').1 = (server (.query sql params) s).1 ∧
      R (server (.query sql params) s).2 (server' (.query sql params) s').2

namespace Dialogue

/-- What passes in a dialogue with a database. -/
def transcript (server : Server σ) : Dialogue α → σ → List Exchange
  | done _, _ => []
  | ask r next, s =>
    ⟨r, (server r s).1⟩ :: (next (server r s).1).transcript server (server r s).2

/-- The dialogue makes the requests of `log` and, given the answers of `log`, ends with `a`. -/
def Follows : Dialogue α → List Exchange → α → Prop
  | done a, log, b => log = [] ∧ a = b
  | ask r next, log, b => ∃ answer rest, (next answer).Follows rest b ∧ log = ⟨r, answer⟩ :: rest

theorem follows_transcript (server : Server σ) (d : Dialogue α) (s : σ) :
    d.Follows (d.transcript server s) (d.run server s).1 := by
  induction d generalizing s with
  | done a => exact ⟨rfl, rfl⟩
  | ask r next ih => exact ⟨_, _, ih _ _, rfl⟩

theorem follows_bind {d : Dialogue α} {f : α → Dialogue β} {log : List Exchange} {b : β} :
    (d >>= f).Follows log b ↔
      ∃ a first rest, d.Follows first a ∧ (f a).Follows rest b ∧ log = first ++ rest := by
  induction d generalizing log with
  | done a =>
    constructor
    · intro h
      exact ⟨a, [], log, ⟨rfl, rfl⟩, h, rfl⟩
    · rintro ⟨_, _, rest, ⟨rfl, rfl⟩, h, rfl⟩
      exact h
  | ask r next ih =>
    constructor
    · rintro ⟨answer, log, h, rfl⟩
      obtain ⟨a, first, rest, ha, hb, rfl⟩ := (ih answer).1 h
      exact ⟨a, _, rest, ⟨answer, first, ha, rfl⟩, hb, rfl⟩
    · rintro ⟨a, _, rest, ⟨answer, first, ha, rfl⟩, hb, rfl⟩
      exact ⟨answer, first ++ rest, (ih answer).2 ⟨a, first, rest, ha, hb, rfl⟩, rfl⟩

/-- A database in the state `s` gives the answers of `log` to its requests, and is in the state `s'`
then. -/
def Answered (server : Server σ) : σ → List Exchange → σ → Prop
  | s, [], s' => s = s'
  | s, x :: rest, s' => (server x.request s).1 = x.answer ∧
      Answered server (server x.request s).2 rest s'

theorem answered_append {server : Server σ} {s s' : σ} {first rest : List Exchange} :
    Answered server s (first ++ rest) s' ↔
      ∃ t, Answered server s first t ∧ Answered server t rest s' := by
  induction first generalizing s with
  | nil => simp only [List.nil_append, Answered, exists_eq_left']
  | cons x first ih => simp only [List.cons_append, Answered, ih, exists_and_left, and_assoc]

/-- What a dialogue is led to is what it always comes to. -/
theorem Always.of_follows {post : α → Prop} {d : Dialogue α} {log : List Exchange} {a : α}
    (always : d.Always post) (h : d.Follows log a) : post a := by
  induction d generalizing log with
  | done b =>
    obtain ⟨-, rfl⟩ := h
    exact always
  | ask r next ih =>
    obtain ⟨answer, _, h, -⟩ := h
    exact ih answer (always answer) h

/-- A dialogue always comes to what some exchanges lead it to. -/
theorem always_follows (d : Dialogue α) : d.Always fun a => ∃ log, d.Follows log a := by
  induction d with
  | done a => exact ⟨[], rfl, rfl⟩
  | ask r next ih =>
    intro answer
    refine (ih answer).mono ?_
    rintro a ⟨log, h⟩
    exact ⟨⟨r, answer⟩ :: log, answer, log, h, rfl⟩

/-- What passes in a dialogue is what it may ask. -/
theorem Follows.forall_request {p : Request → Prop} {d : Dialogue α} {log : List Exchange} {a : α}
    (h : d.Follows log a) (asks : d.Asks p) : ∀ x ∈ log, p x.request := by
  induction d generalizing log with
  | done b =>
    obtain ⟨rfl, -⟩ := h
    exact nofun
  | ask r next ih =>
    obtain ⟨answer, rest, h, rfl⟩ := h
    exact List.forall_mem_cons.2 ⟨asks.1, ih answer h (asks.2 answer)⟩

theorem answered_transcript (server : Server σ) (d : Dialogue α) (s : σ) :
    Answered server s (d.transcript server s) (d.run server s).2 := by
  induction d generalizing s with
  | done a => rfl
  | ask r next ih => exact ⟨rfl, ih _ _⟩

/-- What a dialogue follows is how it is held with a database that gives these answers. -/
theorem run_of_follows {server : Server σ} {d : Dialogue α} {log : List Exchange} {a : α} {s s' : σ}
    (h : d.Follows log a) (answered : Answered server s log s') : d.run server s = (a, s') := by
  induction d generalizing log s with
  | done b =>
    obtain ⟨rfl, rfl⟩ := h
    exact Prod.ext rfl answered
  | ask r next ih =>
    obtain ⟨answer, rest, h, rfl⟩ := h
    obtain ⟨same, later⟩ := answered
    rw [run_ask, same]
    exact ih _ h later

/-- What a dialogue follows is what passes with a database that gives these answers. -/
theorem transcript_of_follows {server : Server σ} {d : Dialogue α} {log : List Exchange} {a : α}
    {s s' : σ} (h : d.Follows log a) (answered : Answered server s log s') :
    d.transcript server s = log := by
  induction d generalizing log s with
  | done b => exact h.1.symm
  | ask r next ih =>
    obtain ⟨answer, rest, h, rfl⟩ := h
    obtain ⟨same, later⟩ := answered
    rw [transcript, same, ih _ h later]

/-- With databases that answer queries alike, a dialogue that only queries has the same result, and
the same passes. -/
theorem run_eq_of_sameAnswers {σ' : Type} {server : Server σ} {server' : Server σ'}
    {d : Dialogue α} {s : σ} {s' : σ'} (asks : d.Asks fun r => ∃ sql params, r = .query sql params)
    (same : SameAnswers server s server' s') : (d.run server' s').1 = (d.run server s).1 ∧
      d.transcript server' s' = d.transcript server s := by
  induction d generalizing s s' with
  | done a => exact ⟨rfl, rfl⟩
  | ask r next ih =>
    obtain ⟨⟨sql, params, rfl⟩, asks⟩ := asks
    obtain ⟨R, related, step⟩ := same
    obtain ⟨answer, related⟩ := step s s' related sql params
    obtain ⟨result, passed⟩ := ih _ (asks _) ⟨R, related, step⟩
    rw [run_ask, run_ask, transcript, transcript, answer]
    exact ⟨result, by rw [passed]⟩

end Dialogue

namespace Action

/-- What passes in an action with a database. -/
def transcript (server : Server σ) (a : Action α) (s : σ) : List Exchange :=
  a.run.transcript server s

/-- The exchanges `log` lead the action to success with the result `x`. -/
def Follows (a : Action α) (log : List Exchange) (x : α) : Prop := a.run.Follows log (.ok x)

variable {a : Action α} {log : List Exchange}

theorem yields_follows (a : Action α) : a.Yields fun x => ∃ log, a.Follows log x := by
  refine a.run.always_follows.mono ?_
  rintro _ ⟨log, h⟩ x rfl
  exact ⟨log, h⟩

/-- What an action is led to is what it yields. -/
theorem Follows.of_yields {post : α → Prop} {x : α} (h : a.Follows log x)
    (yields : a.Yields post) : post x :=
  Dialogue.Always.of_follows yields h x rfl

theorem follows_transcript {server : Server σ} {s : σ} {x : α}
    (h : a.result server s = .ok x) : a.Follows (a.transcript server s) x := by
  have := Dialogue.follows_transcript server a.run s
  rwa [← result, h] at this

@[simp] theorem follows_pure {x y : α} : (pure x : Action α).Follows log y ↔ log = [] ∧ x = y := by
  constructor
  · rintro ⟨rfl, ⟨⟩⟩
    exact ⟨rfl, rfl⟩
  · rintro ⟨rfl, rfl⟩
    exact ⟨rfl, rfl⟩

@[simp] theorem not_follows_throw {e : Error} {y : α} : ¬(throw e : Action α).Follows log y := by
  rintro ⟨_, ⟨⟩⟩

theorem follows_bind {f : α → Action β} {y : β} : (a >>= f).Follows log y ↔
    ∃ x first rest, a.Follows first x ∧ (f x).Follows rest y ∧ log = first ++ rest := by
  unfold Follows
  rw [ExceptT.run_bind, Dialogue.follows_bind]
  constructor
  · rintro ⟨x | x, first, rest, ha, hf, rfl⟩
    · obtain ⟨_, ⟨⟩⟩ := hf
    · exact ⟨x, first, rest, ha, hf, rfl⟩
  · rintro ⟨x, first, rest, ha, hf, rfl⟩
    exact ⟨.ok x, first, rest, ha, hf, rfl⟩

@[simp] theorem follows_ask {r : Request} {x : r.Reply} :
    (ask r).Follows log x ↔ log = [⟨r, .ok x⟩] := by
  constructor
  · rintro ⟨_, _, ⟨rfl, rfl⟩, rfl⟩
    rfl
  · rintro rfl
    exact ⟨_, _, ⟨rfl, rfl⟩, rfl⟩

theorem follows_ofExcept_bind {e : Except Error α} {f : α → Action β} {y : β} :
    (ofExcept e >>= f).Follows log y ↔ ∃ x, e = .ok x ∧ (f x).Follows log y := by
  rw [follows_bind]
  constructor
  · rintro ⟨x, _, rest, ⟨rfl, h⟩, later, rfl⟩
    exact ⟨x, by cases h; rfl, later⟩
  · rintro ⟨x, rfl, later⟩
    exact ⟨x, [], log, ⟨rfl, rfl⟩, later, rfl⟩

theorem follows_liftM_bind {e : Except Error α} {f : α → Action β} {y : β} :
    ((liftM e : Action α) >>= f).Follows log y ↔ ∃ x, e = .ok x ∧ (f x).Follows log y :=
  follows_ofExcept_bind

theorem follows_ask_bind {r : Request} {f : r.Reply → Action β} {y : β} :
    (ask r >>= f).Follows log y ↔ ∃ x rest, (f x).Follows rest y ∧ log = ⟨r, .ok x⟩ :: rest := by
  rw [follows_bind]
  constructor
  · rintro ⟨x, _, rest, asked, later, rfl⟩
    obtain rfl := follows_ask.1 asked
    exact ⟨x, rest, later, rfl⟩
  · rintro ⟨x, rest, later, rfl⟩
    exact ⟨x, [_], rest, follows_ask.2 rfl, later, rfl⟩

theorem follows_lift {d : Dialogue α} {x : α} :
    Action.Follows (ExceptT.lift d) log x ↔ d.Follows log x := by
  unfold Follows
  rw [ExceptT.run_lift, map_eq_pure_bind, Dialogue.follows_bind]
  constructor
  · rintro ⟨_, first, _, h, ⟨rfl, ⟨⟩⟩, rfl⟩
    simpa using h
  · intro h
    exact ⟨x, log, [], h, ⟨rfl, rfl⟩, by simp⟩

/-- An action fails if its first part does. -/
theorem follows_bind_error {f : α → Action β} {e : Error} (h : a.run.Follows log (.error e)) :
    (a >>= f).run.Follows log (.error e) := by
  rw [ExceptT.run_bind, Dialogue.follows_bind]
  exact ⟨.error e, log, [], h, ⟨rfl, rfl⟩, (List.append_nil log).symm⟩

/-- An action that is carried on with whether it succeeds or fails. -/
theorem follows_lift_bind {d : Dialogue α} {f : α → Action β} {y : β} :
    Action.Follows (ExceptT.lift d >>= f) log y ↔
      ∃ x first rest, d.Follows first x ∧ (f x).Follows rest y ∧ log = first ++ rest := by
  simp only [follows_bind, follows_lift]

/-- Every item leads to its result. -/
theorem forall₂_of_follows_mapM {f : α → Action β} {l : List α} {ys : List β}
    (h : (l.mapM f).Follows log ys) :
    List.Forall₂ (fun x y => ∃ part, (f x).Follows part y) l ys := by
  induction l generalizing log ys with
  | nil =>
    obtain ⟨-, rfl⟩ := follows_pure.1 h
    exact .nil
  | cons x l ih =>
    rw [List.mapM_cons] at h
    obtain ⟨y, first, _, head, h, -⟩ := follows_bind.1 h
    obtain ⟨ys', _, _, tail, h, -⟩ := follows_bind.1 h
    obtain ⟨-, rfl⟩ := follows_pure.1 h
    exact .cons ⟨first, head⟩ (ih tail)

/-- A transaction that succeeds is begun and committed, and its body succeeds in between. -/
theorem follows_inTransaction {body : Action α} {x : α} (h : (inTransaction body).Follows log x) :
    ∃ inner, body.Follows inner x ∧
      log = ⟨.begin, .ok ()⟩ :: inner ++ [⟨.commit, .ok ()⟩] := by
  obtain ⟨_, _, begun, rfl⟩ := follows_ask_bind.1 h
  obtain ⟨outcome, inner, _, held, closing, rfl⟩ := follows_bind.1 begun
  have held := follows_lift.1 held
  cases outcome with
  | error e =>
    obtain ⟨_, _, failed, -⟩ := follows_ask_bind.1 closing
    exact absurd failed not_follows_throw
  | ok y =>
    obtain ⟨_, _, ended, rfl⟩ := follows_ask_bind.1 closing
    obtain ⟨rfl, rfl⟩ := follows_pure.1 ended
    exact ⟨inner, held, rfl⟩

end Action

/-! ## Actions on a state -/

/-- The exchanges `log` lead the action from the state `s` to success with the result `x` in the
state `s'`. -/
def LeadsBy (a : ExceptT Error (StateT σ Dialogue) α) (s : σ) (log : List Exchange) (x : α)
    (s' : σ) : Prop :=
  (a.run.run s).Follows log (.ok x, s')

/-- Every request that the action can make in any state, whatever the answers are, satisfies `p`. -/
def AsksOnly (p : Request → Prop) (a : ExceptT Error (StateT σ Dialogue) α) : Prop :=
  ∀ s, (a.run.run s).Asks p

section States

variable {a : ExceptT Error (StateT σ Dialogue) α} {f : α → ExceptT Error (StateT σ Dialogue) β}
  {s s' : σ} {log : List Exchange} {p : Request → Prop}

theorem leads_leadsBy (a : ExceptT Error (StateT σ Dialogue) α) (s : σ) :
    Leads a s fun r s' => ∀ x, r = .ok x → ∃ log, LeadsBy a s log x s' := by
  refine (a.run.run s).always_follows.mono ?_
  rintro ⟨_, s'⟩ ⟨log, h⟩ x rfl
  exact ⟨log, h⟩

theorem leadsBy_pure {x y : α} :
    LeadsBy (pure x : ExceptT Error (StateT σ Dialogue) α) s log y s' ↔
      log = [] ∧ x = y ∧ s = s' := by
  constructor
  · rintro ⟨rfl, ⟨⟩⟩
    exact ⟨rfl, rfl, rfl⟩
  · rintro ⟨rfl, rfl, rfl⟩
    exact ⟨rfl, rfl⟩

theorem not_leadsBy_throw_bind {e : Error} {y : β} :
    ¬LeadsBy ((throw e : ExceptT Error (StateT σ Dialogue) α) >>= f) s log y s' := by
  rintro ⟨_, ⟨⟩⟩

theorem leadsBy_bind {y : β} : LeadsBy (a >>= f) s log y s' ↔
    ∃ x t first rest, LeadsBy a s first x t ∧ LeadsBy (f x) t rest y s' ∧ log = first ++ rest := by
  unfold LeadsBy
  rw [ExceptT.run_bind, StateT.run_bind, Dialogue.follows_bind]
  constructor
  · rintro ⟨⟨x | x, t⟩, first, rest, ha, hf, rfl⟩
    · obtain ⟨_, ⟨⟩⟩ := hf
    · exact ⟨x, t, first, rest, ha, hf, rfl⟩
  · rintro ⟨x, t, first, rest, ha, hf, rfl⟩
    exact ⟨(.ok x, t), first, rest, ha, hf, rfl⟩

theorem leadsBy_except_bind {e : Except Error α} {y : β} :
    LeadsBy (ExceptT.mk (pure e) >>= f) s log y s' ↔ ∃ x, e = .ok x ∧ LeadsBy (f x) s log y s' := by
  rw [leadsBy_bind]
  constructor
  · rintro ⟨x, _, _, rest, ⟨rfl, ⟨⟩⟩, later, rfl⟩
    exact ⟨x, rfl, later⟩
  · rintro ⟨x, rfl, later⟩
    exact ⟨x, s, [], log, ⟨rfl, rfl⟩, later, rfl⟩

theorem leadsBy_action {action : Action α} {x : α} :
    LeadsBy (ExceptT.mk (StateT.lift action.run)) s log x s' ↔ action.Follows log x ∧ s = s' := by
  refine Dialogue.follows_bind.trans ?_
  constructor
  · rintro ⟨_, first, _, h, ⟨rfl, ⟨⟩⟩, rfl⟩
    rw [List.append_nil]
    exact ⟨h, rfl⟩
  · rintro ⟨h, rfl⟩
    exact ⟨_, log, [], h, ⟨rfl, rfl⟩, (List.append_nil log).symm⟩

theorem leadsBy_mapM_except {f : α → Except Error β} {l : List α} {ys : List β}
    (h : LeadsBy (l.mapM fun i => (ExceptT.mk (pure (f i)) : ExceptT Error (StateT σ Dialogue) β))
      s log ys s') : l.mapM f = .ok ys ∧ log = [] ∧ s = s' := by
  induction l generalizing log ys with
  | nil =>
    obtain ⟨rfl, rfl, rfl⟩ := leadsBy_pure.1 h
    exact ⟨rfl, rfl, rfl⟩
  | cons i l ih =>
    rw [List.mapM_cons] at h
    obtain ⟨y, head, h⟩ := leadsBy_except_bind.1 h
    obtain ⟨_, _, _, _, tail, last, rfl⟩ := leadsBy_bind.1 h
    obtain ⟨rfl, rfl, rfl⟩ := leadsBy_pure.1 last
    obtain ⟨rest, rfl, rfl⟩ := ih tail
    rw [List.mapM_cons, head, rest]
    exact ⟨rfl, rfl, rfl⟩

theorem asksOnly_pure (x : α) : AsksOnly p (pure x : ExceptT Error (StateT σ Dialogue) α) :=
  fun _ => trivial

theorem AsksOnly.bind (ha : AsksOnly p a) (hf : ∀ x, AsksOnly p (f x)) : AsksOnly p (a >>= f) := by
  intro s
  rw [ExceptT.run_bind, StateT.run_bind]
  refine Dialogue.asks_bind (ha s) fun r => ?_
  obtain ⟨r, t⟩ := r
  cases r with
  | error e => trivial
  | ok x => exact hf x t

theorem asksOnly_mapM {f : α → ExceptT Error (StateT σ Dialogue) β} (hf : ∀ i, AsksOnly p (f i))
    (l : List α) : AsksOnly p (l.mapM f) := by
  induction l with
  | nil => exact asksOnly_pure []
  | cons i l ih =>
    rw [List.mapM_cons]
    exact (hf i).bind fun _ => ih.bind fun _ => asksOnly_pure _

end States

end JoinSheet
