import JoinSheet.Proofs.Database.Outcome

/-!
# Actions up to their errors

Two actions may ask the same requests, succeed with the same results, and fail in the same places
with different errors. They are equal once errors are forgotten. What is left of an action then is a
dialogue, and it composes as actions do.

## Main definitions

* `Action.success` — an action whose errors are forgotten.
* `Action.NeverSucceeds` — an action that fails with every database.

## Main statements

* `Action.success_bind` — one action after another.
* `Action.toOption_result_eq` — such actions have the same results with every database.
-/

namespace JoinSheet

namespace Action

variable {α β ι : Type}

/-- The action without its errors: a dialogue that has a result if the action succeeds. -/
def success (a : Action α) : Dialogue (Option α) := Except.toOption <$> a.run

@[simp] theorem success_pure (x : α) : (pure x : Action α).success = pure (some x) := rfl

@[simp] theorem success_throw (e : Error) : (throw e : Action α).success = pure none := rfl

@[simp] theorem success_liftM (e : Except Error α) :
    (liftM e : Action α).success = pure e.toOption := rfl

theorem success_bind (a : Action α) (f : α → Action β) :
    (a >>= f).success = a.success >>= fun x => x.elim (pure none) fun x => (f x).success := by
  simp only [success, ExceptT.run_bind, map_eq_pure_bind, bind_assoc, pure_bind]
  refine congrArg (a.run >>= ·) (funext fun r => ?_)
  cases r <;> rfl

theorem success_bind_congr {a b : Action α} {f g : α → Action β} (h : a.success = b.success)
    (later : ∀ x, (f x).success = (g x).success) : (a >>= f).success = (b >>= g).success := by
  rw [success_bind, success_bind, h]
  simp only [later]

/-- An action that asks nothing either goes on with its result or fails. -/
theorem success_bind_of_pure {a : Action α} {x : Option α} (h : a.success = pure x)
    (f : α → Action β) : (a >>= f).success = x.elim (pure none) fun x => (f x).success := by
  rw [success_bind, h, pure_bind]

section Result

variable {σ : Type} (server : Server σ) (s : σ)

theorem toOption_result_eq_run (a : Action α) :
    (a.result server s).toOption = (a.success.run server s).1 := by
  rw [success, map_eq_pure_bind, Dialogue.run_bind]
  rfl

/-- Actions that are equal up to their errors have the same results with every database. -/
theorem toOption_result_eq {a b : Action α} (h : a.success = b.success) :
    (a.result server s).toOption = (b.result server s).toOption := by
  rw [toOption_result_eq_run, toOption_result_eq_run, h]

end Result

/-! ## Actions that never succeed -/

/-- The action fails with every database. -/
def NeverSucceeds (a : Action α) : Prop :=
  ∀ ⦃σ : Type⦄ (server : Server σ) (s : σ), (a.result server s).toOption = none

theorem neverSucceeds_of_success {a : Action α} (h : a.success = pure none) : a.NeverSucceeds := by
  intro σ server s
  rw [toOption_result_eq_run, h]
  rfl

theorem NeverSucceeds.bind {a : Action α} (h : a.NeverSucceeds) (f : α → Action β) :
    (a >>= f).NeverSucceeds := by
  intro σ server s
  have failed := h server s
  rw [toOption_result_eq_run] at failed ⊢
  rw [success_bind, Dialogue.run_bind, failed]
  rfl

theorem neverSucceeds_bind (a : Action α) {f : α → Action β} (h : ∀ x, (f x).NeverSucceeds) :
    (a >>= f).NeverSucceeds := by
  intro σ server s
  rw [toOption_result_eq_run, success_bind, Dialogue.run_bind]
  cases (a.success.run server s).1 with
  | none => rfl
  | some x =>
    have failed := h x server (a.success.run server s).2
    rwa [toOption_result_eq_run] at failed

end Action

end JoinSheet
