import JoinSheet.Database.Dialogue

/-!
# Whatever the answers are

Nothing is known of the database that a dialogue is held with, so what is said of the result of a
dialogue has to hold whatever the answers are. An action on a state leads to a result and a state,
also when it fails.

## Main definitions

* `Dialogue.Always` — all results that a dialogue can come to satisfy a predicate.
* `Action.Yields` — all results that an action can succeed with satisfy a predicate.
* `Action.Succeeds` — an action that does not fail.
* `Leads` — all results and states that an action on a state can come to satisfy a predicate.

## Main statements

* `Dialogue.Always.run` — what is always so is so with every database.
* `Leads.bind` — one action on a state after another.
-/

namespace JoinSheet

variable {α β ι σ : Type}

/-! ## Dialogues -/

namespace Dialogue

variable {post post' : α → Prop} {d : Dialogue α}

/-- Every result that the dialogue can come to, whatever the answers are, satisfies `post`. -/
def Always (post : α → Prop) : Dialogue α → Prop
  | done a => post a
  | ask _ next => ∀ answer, (next answer).Always post

theorem always_of_forall (d : Dialogue α) (h : ∀ a, post a) : d.Always post := by
  induction d with
  | done a => exact h a
  | ask r next ih => exact fun answer => ih answer

theorem Always.mono (always : d.Always post) (h : ∀ a, post a → post' a) : d.Always post' := by
  induction d with
  | done a => exact h a always
  | ask r next ih => exact fun answer => ih answer (always answer)

theorem Always.and (left : d.Always post) (right : d.Always post') :
    d.Always fun a => post a ∧ post' a := by
  induction d with
  | done a => exact ⟨left, right⟩
  | ask r next ih => exact fun answer => ih answer (left answer) (right answer)

theorem always_bind {f : α → Dialogue β} {post : β → Prop} :
    (d >>= f).Always post ↔ d.Always fun a => (f a).Always post := by
  induction d with
  | done a => exact Iff.rfl
  | ask r next ih => exact forall_congr' ih

/-- What is always so is so with every database. -/
theorem Always.run (always : d.Always post) (server : Server σ) (s : σ) :
    post (d.run server s).1 := by
  induction d generalizing s with
  | done a => exact always
  | ask r next ih => exact ih _ (always _) _

end Dialogue

/-! ## Actions -/

namespace Action

variable {a : Action α} {post : α → Prop}

/-- Every result that the action can succeed with, whatever the answers are, satisfies `post`. -/
def Yields (post : α → Prop) (a : Action α) : Prop :=
  a.run.Always fun r => ∀ x, r = .ok x → post x

theorem yields_true (a : Action α) : a.Yields fun _ => True :=
  Dialogue.always_of_forall a.run fun _ _ _ => trivial

theorem Yields.mono {post' : α → Prop} (ha : a.Yields post) (h : ∀ x, post x → post' x) :
    a.Yields post' :=
  Dialogue.Always.mono ha fun _ r x hx => h x (r x hx)

theorem yields_pure {x : α} (h : post x) : (pure x : Action α).Yields post := by
  rintro _ ⟨⟩
  exact h

theorem yields_throw (e : Error) : (throw e : Action α).Yields post := nofun

theorem yields_ite {c : Prop} [Decidable c] {b : Action α} (ha : c → a.Yields post)
    (hb : ¬c → b.Yields post) : (if c then a else b).Yields post := by
  split
  · exact ha ‹c›
  · exact hb ‹¬c›

/-- A result needs only to be considered once its action has come to it. -/
theorem Yields.bind {f : α → Action β} {post' : β → Prop} (ha : a.Yields post)
    (hf : ∀ x, post x → (f x).Yields post') : (a >>= f).Yields post' := by
  unfold Yields
  rw [ExceptT.run_bind, Dialogue.always_bind]
  refine Dialogue.Always.mono ha fun r h => ?_
  cases r with
  | error e => exact nofun
  | ok x => exact hf x (h x rfl)

theorem yields_bind {f : α → Action β} {post' : β → Prop} (hf : ∀ x, (f x).Yields post') :
    (a >>= f).Yields post' :=
  a.yields_true.bind fun x _ => hf x

/-- What each step keeps, all steps keep. -/
theorem yields_foldlM {f : β → ι → Action β} {l : List ι} {b : β} {post : β → Prop} (start : post b)
    (step : ∀ b i, post b → (f b i).Yields post) : (l.foldlM f b).Yields post := by
  induction l generalizing b with
  | nil => exact yields_pure start
  | cons i l ih =>
    rw [List.foldlM_cons]
    exact (step b i start).bind fun _ h => ih h

/-- The action does not fail, whatever the answers are. -/
def Succeeds (a : Action α) : Prop := a.run.Always fun r => ∃ x, r = .ok x

theorem succeeds_pure (x : α) : (pure x : Action α).Succeeds := ⟨x, rfl⟩

theorem succeeds_lift (d : Dialogue α) : Succeeds (ExceptT.lift d : Action α) := by
  unfold Succeeds
  rw [ExceptT.run_lift, map_eq_pure_bind, Dialogue.always_bind]
  exact d.always_of_forall fun x => ⟨x, rfl⟩

theorem Succeeds.bind {f : α → Action β} (ha : a.Succeeds) (hf : ∀ x, (f x).Succeeds) :
    (a >>= f).Succeeds := by
  unfold Succeeds
  rw [ExceptT.run_bind, Dialogue.always_bind]
  refine Dialogue.Always.mono ha ?_
  rintro _ ⟨x, rfl⟩
  exact hf x

theorem succeeds_foldlM {f : β → ι → Action β} (step : ∀ b i, (f b i).Succeeds) (l : List ι) (b : β) :
    (l.foldlM f b).Succeeds := by
  induction l generalizing b with
  | nil => exact succeeds_pure b
  | cons i l ih =>
    rw [List.foldlM_cons]
    exact (step b i).bind ih

end Action

/-! ## Actions on a state -/

/-- Whatever the answers are, the action leads from the state `s` to a result and a state that
satisfy `post`. -/
def Leads (a : ExceptT Error (StateT σ Dialogue) α) (s : σ) (post : Except Error α → σ → Prop) :
    Prop :=
  (a.run.run s).Always fun r => post r.1 r.2

section Leads

variable {a : ExceptT Error (StateT σ Dialogue) α} {s : σ} {post post' : Except Error α → σ → Prop}

theorem Leads.mono (h : Leads a s post) (imp : ∀ r s', post r s' → post' r s') :
    Leads a s post' :=
  Dialogue.Always.mono h fun r => imp r.1 r.2

theorem Leads.and (left : Leads a s post) (right : Leads a s post') :
    Leads a s fun r s' => post r s' ∧ post' r s' :=
  Dialogue.Always.and left right

theorem leads_pure {x : α} (h : post (.ok x) s) : Leads (pure x) s post := h

theorem leads_throw {e : Error} (h : post (.error e) s) : Leads (throw e) s post := h

theorem leads_throw_bind {e : Error} {f : α → ExceptT Error (StateT σ Dialogue) β}
    {post : Except Error β → σ → Prop} (h : post (.error e) s) : Leads (throw e >>= f) s post := h

theorem leads_bind {f : α → ExceptT Error (StateT σ Dialogue) β}
    {post : Except Error β → σ → Prop} :
    Leads (a >>= f) s post ↔ Leads a s fun r s' =>
      match r with
      | .ok x => Leads (f x) s' post
      | .error e => post (.error e) s' := by
  unfold Leads
  rw [ExceptT.run_bind, StateT.run_bind, Dialogue.always_bind]
  constructor <;> refine fun h => h.mono ?_ <;> rintro ⟨_ | x, s'⟩ later <;> exact later

/-- One action on a state after another. -/
theorem Leads.bind {f : α → ExceptT Error (StateT σ Dialogue) β}
    {post' : Except Error β → σ → Prop} (h : Leads a s post)
    (failed : ∀ e s', post (.error e) s' → post' (.error e) s')
    (later : ∀ x s', post (.ok x) s' → Leads (f x) s' post') : Leads (a >>= f) s post' := by
  refine leads_bind.2 (h.mono fun r s' hr => ?_)
  cases r with
  | error e => exact failed e s' hr
  | ok x => exact later x s' hr

/-- An action that knows no state leaves it as it is. -/
theorem leads_lift {a : Action α} {post : α → Prop} (ha : a.Yields post) (s : σ) :
    Leads (ExceptT.mk (StateT.lift a.run)) s fun r s' => s' = s ∧ ∀ x, r = .ok x → post x :=
  Dialogue.always_bind.2 (Dialogue.Always.mono ha fun _ h => ⟨rfl, h⟩)

theorem leads_action {a : Action α} {p : α → Prop} (ha : a.Yields p)
    (failed : ∀ e, post (.error e) s) (done : ∀ x, p x → post (.ok x) s) :
    Leads (ExceptT.mk (StateT.lift a.run)) s post := by
  refine (leads_lift ha s).mono ?_
  rintro (e | x) _ ⟨rfl, hr⟩
  · exact failed e
  · exact done x (hr x rfl)

theorem leads_action_bind {a : Action α} {p : α → Prop} (ha : a.Yields p)
    {f : α → ExceptT Error (StateT σ Dialogue) β} {post : Except Error β → σ → Prop}
    (failed : ∀ e, post (.error e) s) (later : ∀ x, p x → Leads (f x) s post) :
    Leads (ExceptT.mk (StateT.lift a.run) >>= f) s post :=
  leads_bind.2 (leads_action ha failed later)

theorem leads_except {e : Except Error α} (h : post e s) : Leads (ExceptT.mk (pure e)) s post := h

theorem leads_except_bind {e : Except Error α} {f : α → ExceptT Error (StateT σ Dialogue) β}
    {post : Except Error β → σ → Prop} (failed : ∀ error, e = .error error → post (.error error) s)
    (later : ∀ x, e = .ok x → Leads (f x) s post) : Leads (ExceptT.mk (pure e) >>= f) s post := by
  cases e with
  | error error => exact failed error rfl
  | ok x => exact later x rfl

theorem leads_get_bind {f : σ → ExceptT Error (StateT σ Dialogue) α} :
    Leads (get >>= f) s post ↔ Leads (f s) s post := Iff.rfl

theorem leads_modify_bind {g : σ → σ} {f : PUnit → ExceptT Error (StateT σ Dialogue) α} :
    Leads (modify g >>= f) s post ↔ Leads (f ⟨⟩) (g s) post := Iff.rfl

end Leads

end JoinSheet
