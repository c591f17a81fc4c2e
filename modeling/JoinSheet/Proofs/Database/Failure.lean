import JoinSheet.Proofs.Database.Coincidence
import JoinSheet.Proofs.Database.Transaction
import JoinSheet.Proofs.Success

/-!
# How actions fail

An action fails with an error of its own, or with one that the database has answered. What can be
said of the errors of its own is found step by step, from the errors that are thrown.

## Main definitions

* `Except.Fails` — the error that a computation fails with satisfies a predicate.
* `Action.Fails` — so does every error of an action that the database has not answered.

## Main statements

* `Action.Fails.bind`, `Action.fails_foldlM` — one action after another.
-/

namespace JoinSheet

variable {α β ι : Type} {P : Error → Prop}

/-! ## Computations -/

/-- If the computation fails, then with an error that satisfies `P`. -/
def Except.Fails (P : Error → Prop) : Except Error α → Prop
  | .ok _ => True
  | .error e => P e

namespace Except

variable {x : Except Error α}

theorem fails_iff : Fails P x ↔ ∀ e, x = .error e → P e := by
  cases x with
  | ok a => exact ⟨fun _ => nofun, fun _ => trivial⟩
  | error e => exact ⟨fun h _ same => by cases same; exact h, fun h => h e rfl⟩

theorem Fails.bind {f : α → Except Error β} (hx : Fails P x)
    (hf : ∀ a, x = .ok a → Fails P (f a)) : Fails P (x >>= f) := by
  cases x with
  | ok a => exact hf a rfl
  | error e => exact hx

theorem Fails.map {f : α → β} (hx : Fails P x) : Fails P (x.map f) := by
  cases x <;> exact hx

theorem fails_mapM {f : α → Except Error β} {l : List α} (h : ∀ a ∈ l, Fails P (f a)) :
    Fails P (l.mapM f) := by
  refine fails_iff.2 fun e failed => ?_
  obtain ⟨a, mem, failed⟩ := exists_of_mapM_eq_error failed
  exact fails_iff.1 (h a mem) e failed

theorem fails_option_mapM {f : α → Except Error β} {o : Option α} (h : ∀ a, Fails P (f a)) :
    Fails P (o.mapM f) := by
  cases o with
  | none => trivial
  | some a => exact (h a).map

end Except

/-! ## Actions -/

namespace Action

variable {a : Action α}

/-- Every error that the action fails with satisfies `P`, or is an answer of the database. -/
def Fails (P : Error → Prop) (a : Action α) : Prop :=
  ∀ log e, a.Ends log (.error e) → P e ∨ ∃ x ∈ log, x.answer = .error e

/-- An error that the action does not fail with of its own has been answered by the database. -/
theorem Fails.answered {σ : Type} {server : Server σ} {d : σ} {e : Error} (h : Fails P a)
    (failed : a.result server d = .error e) (foreign : ¬P e) :
    ∃ x ∈ a.transcript server d, x.answer = .error e :=
  (h _ _ (failed ▸ ends_transcript server a d)).resolve_left foreign

theorem fails_pure (x : α) : Fails P (pure x) := fun _ _ ended => nomatch (ends_pure.1 ended).2

theorem fails_throw {e : Error} (h : P e) : Fails P (throw e : Action α) := by
  intro log e' ended
  obtain ⟨-, same⟩ := ends_throw.1 ended
  cases same
  exact .inl h

theorem fails_liftM {e : Except Error α} (h : Except.Fails P e) :
    Fails P (liftM e : Action α) := by
  intro log e' ended
  exact .inl (Except.fails_iff.1 h e' (ends_ofExcept.1 ended).2.symm)

theorem yields_liftM (e : Except Error α) : (liftM e : Action α).Yields fun x => e = .ok x :=
  fun _ same => same

theorem fails_ask (r : Request) : Fails P (ask r) := by
  intro log e ended
  rw [ends_ask.1 ended]
  exact .inr ⟨_, List.mem_singleton_self _, rfl⟩

/-- A result needs only to be considered once its action has come to it. -/
theorem Fails.bind {Q : α → Prop} {f : α → Action β} (ha : Fails P a) (hy : a.Yields Q)
    (hf : ∀ x, Q x → Fails P (f x)) : Fails P (a >>= f) := by
  intro log e ended
  obtain ⟨e', failed, same⟩ | ⟨x, first, rest, done, failed, rfl⟩ := ends_bind.1 ended
  · cases same
    exact ha log e failed
  · have reached : Q x := Follows.of_yields done hy
    obtain own | ⟨y, mem, answered⟩ := hf x reached rest e failed
    · exact .inl own
    · exact .inr ⟨y, List.mem_append_right first mem, answered⟩

theorem fails_bind {f : α → Action β} (ha : Fails P a) (hf : ∀ x, Fails P (f x)) :
    Fails P (a >>= f) :=
  ha.bind a.yields_true fun x _ => hf x

theorem fails_ite {c : Prop} [Decidable c] {b : Action α} (ha : c → Fails P a)
    (hb : ¬ c → Fails P b) : Fails P (if c then a else b) := by
  split
  · exact ha ‹c›
  · exact hb ‹¬ c›

theorem fails_foldlM {f : β → ι → Action β} {l : List ι} (h : ∀ b, ∀ i ∈ l, Fails P (f b i))
    (b : β) : Fails P (l.foldlM f b) := by
  induction l generalizing b with
  | nil => exact fails_pure b
  | cons i l ih =>
    rw [List.foldlM_cons]
    refine fails_bind (h b i List.mem_cons_self) fun b' => ?_
    exact ih (fun b j mem => h b j (List.mem_cons_of_mem i mem)) b'

theorem fails_mapM {f : α → Action β} {l : List α} (h : ∀ x ∈ l, Fails P (f x)) :
    Fails P (l.mapM f) := by
  induction l with
  | nil => exact fails_pure []
  | cons x l ih =>
    rw [List.mapM_cons]
    refine fails_bind (h x List.mem_cons_self) fun y => ?_
    exact fails_bind (ih fun z mem => h z (List.mem_cons_of_mem x mem)) fun _ => fails_pure _

end Action

end JoinSheet
