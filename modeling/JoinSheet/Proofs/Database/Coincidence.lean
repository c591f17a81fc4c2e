import JoinSheet.Proofs.Database.Always
import JoinSheet.Proofs.Database.Outcome

/-!
# Actions that coincide

Two computations on different sheets may be one and the same action, because they look only at what
the sheets have in common. To see that of actions one after another, it has to be known what the
first ones can come to, so both are said at once, together with what is asked of the database.

## Main definitions

* `Action.Coincide` — two actions are the same, and all that they ask and come to satisfies
  predicates.

## Main statements

* `Action.Coincide.bind` — one action after another.
-/

namespace JoinSheet

variable {α β ι : Type} {p : Request → Prop}

theorem Dialogue.bind_congr_of_always {d : Dialogue α} {f g : α → Dialogue β}
    (h : d.Always fun a => f a = g a) : (d >>= f) = (d >>= g) := by
  induction d with
  | done a => exact h
  | ask r next ih => exact congrArg (ask r) (funext fun answer => ih answer (h answer))

/-- What an action on a state goes on with needs only to be the same for what the action comes to. -/
theorem run_bind_congr_of_leads {σ : Type} {s : σ} {a : ExceptT Error (StateT σ Dialogue) α}
    {f g : α → ExceptT Error (StateT σ Dialogue) β}
    (h : Leads a s fun r s' => ∀ x, r = .ok x → (f x).run.run s' = (g x).run.run s') :
    (a >>= f).run.run s = (a >>= g).run.run s := by
  rw [ExceptT.run_bind, ExceptT.run_bind, StateT.run_bind, StateT.run_bind]
  refine Dialogue.bind_congr_of_always (Dialogue.Always.mono h fun r same => ?_)
  obtain ⟨e | x, s'⟩ := r
  · rfl
  · exact same x rfl

namespace Action

/-- The actions are the same. Whatever the answers are, every request satisfies `p`, and every
result that they succeed with satisfies `P`. -/
structure Coincide (p : Request → Prop) (P : α → Prop) (a b : Action α) : Prop where
  eq : a = b
  asks : a.Asks p
  yields : a.Yields P

section Rules

variable {P : α → Prop} {Q : β → Prop} {a b : Action α}

theorem bind_congr_of_yields {f g : α → Action β} (h : a.Yields fun x => f x = g x) :
    (a >>= f) = (a >>= g) := by
  refine ExceptT.ext ?_
  rw [ExceptT.run_bind, ExceptT.run_bind]
  refine Dialogue.bind_congr_of_always (Dialogue.Always.mono h fun r same => ?_)
  cases r with
  | ok x => exact congrArg ExceptT.run (same x rfl)
  | error e => rfl

theorem asks_bind_of_yields {f : α → Action β} (ha : a.Asks p) (hy : a.Yields P)
    (hf : ∀ x, P x → (f x).Asks p) : (a >>= f).Asks p := by
  unfold Asks Yields at *
  rw [ExceptT.run_bind]
  generalize a.run = d at ha hy
  induction d with
  | done r =>
    cases r with
    | ok x => exact hf x (hy x rfl)
    | error e => trivial
  | ask r next ih => exact ⟨ha.1, fun answer => ih answer (ha.2 answer) (hy answer)⟩

theorem liftM_ok_bind (x : α) (f : α → Action β) :
    ((liftM (.ok x : Except Error α) : Action α) >>= f) = f x := rfl

theorem asks_liftM_bind {e : Except Error α} {f : α → Action β}
    (h : ∀ x, e = .ok x → (f x).Asks p) : ((liftM e : Action α) >>= f).Asks p := by
  cases e with
  | ok x => exact h x rfl
  | error e => trivial

theorem coincide_pure {x : α} (h : P x) : Coincide p P (pure x) (pure x) :=
  ⟨rfl, asks_pure x, yields_pure h⟩

theorem coincide_throw (e : Error) : Coincide p P (throw e) (throw e) :=
  ⟨rfl, asks_throw e, nofun⟩

theorem coincide_liftM {e : Except Error α} (h : ∀ x, e = .ok x → P x) :
    Coincide p P (liftM e) (liftM e) :=
  ⟨rfl, asks_liftM e, h⟩

/-- One action after another. -/
theorem Coincide.bind {f g : α → Action β} (h : Coincide p P a b)
    (later : ∀ x, P x → Coincide p Q (f x) (g x)) :
    Coincide p Q (a >>= f) (b >>= g) := by
  obtain ⟨rfl, asks, yields⟩ := h
  refine ⟨bind_congr_of_yields (yields.mono fun x hx => (later x hx).eq), ?_, ?_⟩
  · exact asks_bind_of_yields asks yields fun x hx => (later x hx).asks
  · exact yields.bind fun x hx => (later x hx).yields

theorem coincide_ite {c : Prop} [Decidable c] {a' b' : Action α} (ht : c → Coincide p P a b)
    (hf : ¬ c → Coincide p P a' b') :
    Coincide p P (if c then a else a') (if c then b else b') := by
  split
  · exact ht ‹c›
  · exact hf ‹¬ c›

theorem coincide_foldlM {f g : β → ι → Action β} {l : List ι} {x : β} (start : Q x)
    (step : ∀ y, ∀ i ∈ l, Q y → Coincide p Q (f y i) (g y i)) :
    Coincide p Q (l.foldlM f x) (l.foldlM g x) := by
  induction l generalizing x with
  | nil => exact coincide_pure start
  | cons i l ih =>
    rw [List.foldlM_cons, List.foldlM_cons]
    refine (step x i List.mem_cons_self start).bind fun y hy => ?_
    exact ih hy fun z j hj => step z j (List.mem_cons_of_mem _ hj)

end Rules

end Action

end JoinSheet
