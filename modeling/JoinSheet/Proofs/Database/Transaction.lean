import JoinSheet.Proofs.Database.Transcript

/-!
# How actions end

The exchanges between an action and a database determine the result of the action, a failure as well
as a success. A transaction that could be begun is committed if what happens within it succeeds, and
rolled back if it fails.

## Main definitions

* `Action.Ends` — the exchanges that lead an action to a result, successful or not.

## Main statements

* `Action.Ends.unique` — the exchanges determine the result.
* `Action.ends_inTransaction` — the course of a transaction.
-/

namespace JoinSheet

variable {α β σ : Type}

/-- The answers determine the result. -/
theorem Dialogue.Follows.unique {d : Dialogue α} {log : List Exchange} {a b : α}
    (ha : d.Follows log a) (hb : d.Follows log b) : a = b := by
  induction d generalizing log with
  | done x =>
    obtain ⟨-, rfl⟩ := ha
    exact hb.2
  | ask r next ih =>
    obtain ⟨answer, rest, ha, rfl⟩ := ha
    obtain ⟨answer', rest', hb, same⟩ := hb
    cases same
    exact ih answer ha hb

namespace Action

/-- The exchanges `log` lead the action to the result `r`. -/
def Ends (a : Action α) (log : List Exchange) (r : Except Error α) : Prop := a.run.Follows log r

variable {a : Action α} {log : List Exchange}

theorem ends_transcript (server : Server σ) (a : Action α) (s : σ) :
    a.Ends (a.transcript server s) (a.result server s) :=
  Dialogue.follows_transcript server a.run s

theorem Ends.unique {r r' : Except Error α} (h : a.Ends log r) (h' : a.Ends log r') : r = r' :=
  Dialogue.Follows.unique h h'

theorem ends_pure {x : α} {r : Except Error α} :
    (pure x : Action α).Ends log r ↔ log = [] ∧ r = .ok x :=
  and_congr_right fun _ => eq_comm

theorem ends_throw {e : Error} {r : Except Error α} :
    (throw e : Action α).Ends log r ↔ log = [] ∧ r = .error e :=
  and_congr_right fun _ => eq_comm

theorem ends_ofExcept {e r : Except Error α} : (ofExcept e).Ends log r ↔ log = [] ∧ r = e :=
  and_congr_right fun _ => eq_comm

theorem ends_ask {q : Request} {r : Outcome q} : (ask q).Ends log r ↔ log = [⟨q, r⟩] := by
  constructor
  · rintro ⟨_, _, ⟨rfl, rfl⟩, rfl⟩
    rfl
  · rintro rfl
    exact ⟨_, _, ⟨rfl, rfl⟩, rfl⟩

theorem ends_bind {f : α → Action β} {r : Except Error β} : (a >>= f).Ends log r ↔
    (∃ e, a.Ends log (.error e) ∧ r = .error e) ∨
    ∃ x first rest, a.Ends first (.ok x) ∧ (f x).Ends rest r ∧ log = first ++ rest := by
  unfold Ends
  rw [ExceptT.run_bind, Dialogue.follows_bind]
  constructor
  · rintro ⟨e | x, first, rest, ha, hf, rfl⟩
    · obtain ⟨rfl, rfl⟩ := hf
      exact .inl ⟨e, by simpa using ha, rfl⟩
    · exact .inr ⟨x, first, rest, ha, hf, rfl⟩
  · rintro (⟨e, ha, rfl⟩ | ⟨x, first, rest, ha, hf, rfl⟩)
    · exact ⟨.error e, log, [], ha, ⟨rfl, rfl⟩, (List.append_nil log).symm⟩
    · exact ⟨.ok x, first, rest, ha, hf, rfl⟩

theorem ends_ofExcept_bind {e : Except Error α} {f : α → Action β} {r : Except Error β} :
    (ofExcept e >>= f).Ends log r ↔
      (∃ err, e = .error err ∧ log = [] ∧ r = .error err) ∨ ∃ x, e = .ok x ∧ (f x).Ends log r := by
  simp only [ends_bind, ends_ofExcept]
  constructor
  · rintro (⟨err, ⟨rfl, rfl⟩, rfl⟩ | ⟨x, _, rest, ⟨rfl, rfl⟩, later, rfl⟩)
    · exact .inl ⟨err, rfl, rfl, rfl⟩
    · exact .inr ⟨x, rfl, later⟩
  · rintro (⟨err, rfl, rfl, rfl⟩ | ⟨x, rfl, later⟩)
    · exact .inl ⟨err, ⟨rfl, rfl⟩, rfl⟩
    · exact .inr ⟨x, [], log, ⟨rfl, rfl⟩, later, rfl⟩

theorem ends_ask_bind {q : Request} {f : q.Reply → Action β} {r : Except Error β} :
    (ask q >>= f).Ends log r ↔
      (∃ e, log = [⟨q, .error e⟩] ∧ r = .error e) ∨
      ∃ x rest, (f x).Ends rest r ∧ log = ⟨q, .ok x⟩ :: rest := by
  simp only [ends_bind, ends_ask]
  constructor
  · rintro (failed | ⟨x, _, rest, rfl, later, rfl⟩)
    · exact .inl failed
    · exact .inr ⟨x, rest, later, rfl⟩
  · rintro (failed | ⟨x, rest, later, rfl⟩)
    · exact .inl failed
    · exact .inr ⟨x, [_], rest, rfl, later, rfl⟩

theorem ends_lift_bind {d : Dialogue α} {f : α → Action β} {r : Except Error β} :
    Ends (ExceptT.lift d >>= f) log r ↔
      ∃ x first rest, d.Follows first x ∧ (f x).Ends rest r ∧ log = first ++ rest := by
  unfold Ends
  rw [ExceptT.run_bind, ExceptT.run_lift, map_eq_pure_bind, bind_assoc, Dialogue.follows_bind]
  simp only [pure_bind]

/-- The course of a transaction. A failure to roll back hides what led to it. -/
theorem ends_inTransaction {body : Action α} {r : Except Error α} :
    (inTransaction body).Ends log r ↔
      (∃ e, log = [⟨.begin, .error e⟩] ∧ r = .error e) ∨
      (∃ inner x answer, body.Ends inner (.ok x) ∧
        log = ⟨.begin, .ok ()⟩ :: inner ++ [⟨.commit, answer⟩] ∧ r = answer.map fun _ => x) ∨
      (∃ inner e answer, body.Ends inner (.error e) ∧
        log = ⟨.begin, .ok ()⟩ :: inner ++ [⟨.rollback, answer⟩] ∧
        r = answer.bind fun _ => .error e) := by
  -- Whether the end of the transaction succeeds decides what its result is.
  have commit (x : α) (rest : List Exchange) : (ask .commit >>= fun _ => pure x).Ends rest r ↔
      ∃ answer, rest = [⟨.commit, answer⟩] ∧ r = answer.map fun _ => x := by
    rw [ends_ask_bind]
    constructor
    · rintro (⟨e, rfl, rfl⟩ | ⟨⟨⟩, _, ended, rfl⟩)
      · exact ⟨.error e, rfl, rfl⟩
      · obtain ⟨rfl, rfl⟩ := ends_pure.1 ended
        exact ⟨.ok (), rfl, rfl⟩
    · rintro ⟨e | ⟨⟨⟩⟩, rfl, rfl⟩
      · exact .inl ⟨e, rfl, rfl⟩
      · exact .inr ⟨(), [], ends_pure.2 ⟨rfl, rfl⟩, rfl⟩
  have rollback (e : Error) (rest : List Exchange) :
      (ask .rollback >>= fun _ => throw e : Action α).Ends rest r ↔
      ∃ answer, rest = [⟨.rollback, answer⟩] ∧ r = answer.bind fun _ => .error e := by
    rw [ends_ask_bind]
    constructor
    · rintro (⟨e', rfl, rfl⟩ | ⟨⟨⟩, _, ended, rfl⟩)
      · exact ⟨.error e', rfl, rfl⟩
      · obtain ⟨rfl, rfl⟩ := ends_throw.1 ended
        exact ⟨.ok (), rfl, rfl⟩
    · rintro ⟨e' | ⟨⟨⟩⟩, rfl, rfl⟩
      · exact .inl ⟨e', rfl, rfl⟩
      · exact .inr ⟨(), [], ends_throw.2 ⟨rfl, rfl⟩, rfl⟩
  refine (ends_ask_bind (q := .begin)).trans (or_congr_right ?_)
  simp only [ends_lift_bind]
  constructor
  · rintro ⟨⟨⟩, _, ⟨e | x, inner, rest, held, closing, rfl⟩, rfl⟩
    · obtain ⟨answer, rfl, rfl⟩ := (rollback e rest).1 closing
      exact .inr ⟨inner, e, answer, held, rfl, rfl⟩
    · obtain ⟨answer, rfl, rfl⟩ := (commit x rest).1 closing
      exact .inl ⟨inner, x, answer, held, rfl, rfl⟩
  · rintro (⟨inner, x, answer, held, rfl, rfl⟩ | ⟨inner, e, answer, held, rfl, rfl⟩)
    · exact ⟨(), _, ⟨.ok x, inner, _, held, (commit x _).2 ⟨answer, rfl, rfl⟩, rfl⟩, rfl⟩
    · exact ⟨(), _, ⟨.error e, inner, _, held, (rollback e _).2 ⟨answer, rfl, rfl⟩, rfl⟩, rfl⟩

end Action

end JoinSheet
