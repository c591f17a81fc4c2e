import JoinSheet.Database.Request

/-!
# Dialogues

What the engine does with a database is a dialogue: it ends with a result, or asks one request and
goes on with whatever the answer is. A dialogue knows no particular database, so a fact about a
dialogue holds with every database.

## Main definitions

* `Dialogue` — a dialogue with a result of some type; dialogues form a monad.
* `Server`, `Dialogue.run` — a database as the answers it gives, and a dialogue held with it.
* `Server.absent` — a database that is not there.
* `Dialogue.Asks` — all requests that a dialogue can make satisfy a predicate.
* `Action` — a dialogue that may fail.
* `Action.inTransaction` — an action between the start and the end of a transaction.
-/

namespace JoinSheet

/-- A database, by the answer it gives to a request in a state and the state after it. -/
abbrev Server (σ : Type) := (r : Request) → σ → Outcome r × σ

/-- A database that is not there: every request fails. -/
def Server.absent : Server Unit := fun _ d => (.error (.resolve .noConnection), d)

/-- A dialogue with a database. -/
inductive Dialogue (α : Type) where
  | done (result : α)
  | ask (request : Request) (next : Outcome request → Dialogue α)

namespace Dialogue

variable {α β γ : Type}

/-- The dialogue that goes on with the result of another one. -/
def bind : Dialogue α → (α → Dialogue β) → Dialogue β
  | done a, f => f a
  | ask r next, f => ask r fun reply => (next reply).bind f

instance : Monad Dialogue where
  pure := done
  bind := bind

@[simp] theorem pure_eq (a : α) : (pure a : Dialogue α) = done a := rfl

@[simp] theorem done_bind (a : α) (f : α → Dialogue β) : (done a >>= f) = f a := rfl

@[simp] theorem ask_bind (r : Request) (next : Outcome r → Dialogue α) (f : α → Dialogue β) :
    (ask r next >>= f) = ask r fun reply => next reply >>= f := rfl

theorem bind_done (d : Dialogue α) : (d >>= done) = d := by
  induction d with
  | done a => rfl
  | ask r next ih => simp [ih]

theorem bind_assoc (d : Dialogue α) (f : α → Dialogue β) (g : β → Dialogue γ) :
    (d >>= f >>= g) = d >>= fun a => f a >>= g := by
  induction d with
  | done a => rfl
  | ask r next ih => simp [ih]

instance : LawfulMonad Dialogue :=
  LawfulMonad.mk' Dialogue bind_done (fun _ _ => rfl) bind_assoc

/-! ## Answering -/

/-- A dialogue held with a database. -/
def run {σ : Type} (server : Server σ) : Dialogue α → σ → α × σ
  | done a, s => (a, s)
  | ask r next, s =>
    let (reply, s) := server r s
    (next reply).run server s

@[simp] theorem run_done {σ : Type} (server : Server σ) (a : α) (s : σ) :
    (done a).run server s = (a, s) := rfl

@[simp] theorem run_ask {σ : Type} (server : Server σ) (r : Request)
    (next : Outcome r → Dialogue α) (s : σ) :
    (ask r next).run server s = (next (server r s).1).run server (server r s).2 := rfl

theorem run_bind {σ : Type} (server : Server σ) (d : Dialogue α) (f : α → Dialogue β) (s : σ) :
    (d >>= f).run server s = (f (d.run server s).1).run server (d.run server s).2 := by
  induction d generalizing s with
  | done a => rfl
  | ask r next ih => simp [ih]

/-! ## Which requests are made -/

/-- Every request that the dialogue can make, whatever the answers are, satisfies `p`. -/
def Asks (p : Request → Prop) : Dialogue α → Prop
  | done _ => True
  | ask r next => p r ∧ ∀ reply, (next reply).Asks p

theorem asks_bind {p : Request → Prop} {d : Dialogue α} {f : α → Dialogue β} (hd : d.Asks p)
    (hf : ∀ a, (f a).Asks p) : (d >>= f).Asks p := by
  induction d with
  | done a => exact hf a
  | ask r next ih => exact ⟨hd.1, fun reply => ih reply (hd.2 reply)⟩

/-- The dialogue that only makes a request. -/
def request (r : Request) : Dialogue (Outcome r) := ask r done

end Dialogue

/-- A dialogue that may fail. -/
abbrev Action := ExceptT Error Dialogue

namespace Action

variable {α : Type}

/-- The answer to a request; its failure is the failure of the action. -/
def ask (r : Request) : Action r.Reply := ExceptT.mk (Dialogue.request r)

/-- The result of a computation that needs no database. -/
def ofExcept (e : Except Error α) : Action α := ExceptT.mk (.done e)

/-- The rows that a statement yields. -/
def query (sql : Text) (params : Params) : Action (List Row) := ask (.query sql params)

/-- The number of rows that a statement affects. -/
def execute (sql : Text) (params : Params) : Action Nat := ask (.execute sql params)

/-- An action within a transaction: it is committed if the action succeeds and rolled back if it
fails. A failure to roll back takes the place of the failure that led to it. -/
def inTransaction (body : Action α) : Action α := do
  ask .begin
  match ← ExceptT.lift body.run with
  | .ok a => do
    ask .commit
    return a
  | .error e => do
    ask .rollback
    throw e

end Action

end JoinSheet
