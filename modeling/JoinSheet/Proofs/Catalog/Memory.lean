import JoinSheet.Catalog
import JoinSheet.Proofs.Database.Always
import Mathlib.Order.Basic

/-!
# What the catalog remembers

The catalog only ever learns: what it has loaded of a table it keeps. An action that asks for
nothing but columns and foreign keys comes to the same result again once it has succeeded, without
asking.

## Main definitions

* the order of catalogs — a catalog is below another one that has loaded all that it has loaded.
* `Grows` — an action only adds to the catalog, and its results satisfy a predicate.
* `Catalog.Recalls` — an action has a certain result from now on and asks for nothing.
* `Memoized` — an action is recalled once it has succeeded.

## Main statements

* `Catalog.memoized_foreignKeys`, `Catalog.memoized_columns` — keys and columns are asked for once.
* `Memoized.bind` — what is made of such actions is memoized as well.
-/

namespace JoinSheet

variable {α β ι : Type}

/-! ## Growth -/

/-- What has been loaded of a table stays. -/
instance : Preorder TableEntry where
  le e e' := (∀ columns, e.columns = some columns → e'.columns = some columns) ∧
    ∀ keys, e.foreignKeys = some keys → e'.foreignKeys = some keys
  le_refl _ := ⟨fun _ => id, fun _ => id⟩
  le_trans _ _ _ h h' := ⟨fun c known => h'.1 c (h.1 c known), fun k known => h'.2 k (h.2 k known)⟩

/-- Tables stay known, and what has been loaded of them stays. -/
instance : Preorder Catalog where
  le c c' := ∀ (t : TableName) (known : TableEntry), c.entries[t]? = some known →
    ∃ known', c'.entries[t]? = some known' ∧ known ≤ known'
  le_refl _ _ known h := ⟨known, h, le_refl known⟩
  le_trans _ _ _ first second t known h := by
    obtain ⟨known', h', grown⟩ := first t known h
    obtain ⟨known'', h'', grown'⟩ := second t known' h'
    exact ⟨known'', h'', grown.trans grown'⟩

theorem Catalog.le_insert {c : Catalog} {t : TableName} {known known' : TableEntry}
    (h : c.entries[t]? = some known) (grown : known ≤ known') :
    c ≤ (⟨c.entries.insert t known'⟩ : Catalog) := by
  intro u found hu
  by_cases same : t = u
  · subst same
    rw [h] at hu
    cases hu
    exact ⟨known', by simp, grown⟩
  · exact ⟨found, by simpa [Std.ExtTreeMap.getElem?_insert, same] using hu, le_refl found⟩

/-- Whatever the answers are, the action only adds to the catalog `c`. A result that it succeeds
with satisfies `post` together with the catalog after it. -/
def Grows (a : CatalogAction α) (c : Catalog) (post : α → Catalog → Prop) : Prop :=
  Leads a c fun r c' => c ≤ c' ∧ ∀ x, r = .ok x → post x c'

section Grows

variable {a : CatalogAction α} {f : α → CatalogAction β} {c : Catalog} {x : α} {e : Except Error α}
  {post : α → Catalog → Prop} {post' : β → Catalog → Prop}

theorem Grows.mono {post' : α → Catalog → Prop} (h : Grows a c post)
    (imp : ∀ x c', c ≤ c' → post x c' → post' x c') : Grows a c post' :=
  Leads.mono h fun _ c' led => ⟨led.1, fun x hx => imp x c' led.1 (led.2 x hx)⟩

theorem Grows.and {post' : α → Catalog → Prop} (left : Grows a c post) (right : Grows a c post') :
    Grows a c fun x c' => post x c' ∧ post' x c' :=
  (Leads.and left right).mono fun _ _ led =>
    ⟨led.1.1, fun x hx => ⟨led.1.2 x hx, led.2.2 x hx⟩⟩

theorem grows_pure (h : post x c) : Grows (pure x) c post := by
  refine leads_pure ⟨le_refl c, ?_⟩
  rintro _ ⟨⟩
  exact h

theorem grows_throw (error : Error) : Grows (throw error) c post :=
  leads_throw ⟨le_refl c, nofun⟩

theorem grows_throw_bind (error : Error) : Grows (throw error >>= f) c post' :=
  leads_throw_bind ⟨le_refl c, nofun⟩

theorem Grows.bind (ha : Grows a c post) (hf : ∀ x c', c ≤ c' → post x c' → Grows (f x) c' post') :
    Grows (a >>= f) c post' := by
  refine Leads.bind ha (fun _ _ led => ⟨led.1, nofun⟩) fun x c' ⟨grown, hx⟩ => ?_
  exact Leads.mono (hf x c' grown (hx x rfl)) fun _ _ led => ⟨grown.trans led.1, led.2⟩

theorem grows_except (e : Except Error α) :
    Grows (liftM e : CatalogAction α) c fun x _ => e = .ok x :=
  leads_except ⟨le_refl c, fun _ => id⟩

theorem grows_action {p : α → Prop} {action : Action α} (h : action.Yields p) :
    Grows (liftM action : CatalogAction α) c fun x _ => p x :=
  (leads_lift h c).mono fun _ _ led => ⟨le_of_eq led.1.symm, led.2⟩

end Grows

/-! ## Recalling -/

/-- From now on the action has the result `x` and asks for nothing. -/
def Catalog.Recalls (c : Catalog) (a : CatalogAction α) (x : α) : Prop :=
  ∀ c', c ≤ c' → a.run.run c' = .done (.ok x, c')

namespace Catalog.Recalls

variable {c c' : Catalog} {a : CatalogAction α} {x : α}

theorem mono (h : c.Recalls a x) (grown : c ≤ c') : c'.Recalls a x :=
  fun c'' later => h c'' (grown.trans later)

theorem pure (c : Catalog) (x : α) : c.Recalls (Pure.pure x) x := fun _ _ => rfl

theorem bind {f : α → CatalogAction β} {y : β} (ha : c.Recalls a x) (hf : c.Recalls (f x) y) :
    c.Recalls (a >>= f) y := by
  intro c' grown
  rw [ExceptT.run_bind, StateT.run_bind, ha c' grown]
  exact hf c' grown

end Catalog.Recalls

/-- The action only adds to the catalog. Once it has succeeded its result is recalled. -/
def Memoized (a : CatalogAction α) : Prop := ∀ c, Grows a c fun x c' => c'.Recalls a x

theorem memoized_pure (x : α) : Memoized (pure x) := fun c => grows_pure (.pure c x)

theorem memoized_throw (e : Error) : Memoized (throw e : CatalogAction α) := fun _ => grows_throw e

/-- What is recalled of both of two actions is recalled of one after the other. -/
theorem Memoized.bind {a : CatalogAction α} {f : α → CatalogAction β} (ha : Memoized a)
    (hf : ∀ x, Memoized (f x)) : Memoized (a >>= f) := by
  intro c
  -- The second action may add to the catalog, and the first one is still recalled then.
  refine (ha c).bind fun x c' _ first => (hf x c').mono fun y c'' later second => ?_
  exact (first.mono later).bind second

theorem memoized_foldlM {f : β → ι → CatalogAction β} (hf : ∀ b i, Memoized (f b i))
    (l : List ι) (b : β) : Memoized (l.foldlM f b) := by
  induction l generalizing b with
  | nil => exact memoized_pure b
  | cons i l ih =>
    rw [List.foldlM_cons]
    exact (hf b i).bind ih

theorem memoized_mapM {f : ι → CatalogAction β} (hf : ∀ i, Memoized (f i)) (l : List ι) :
    Memoized (l.mapM f) := by
  induction l with
  | nil => exact memoized_pure []
  | cons i l ih =>
    rw [List.mapM_cons]
    exact (hf i).bind fun _ => ih.bind fun _ => memoized_pure _

theorem memoized_except (e : Except Error α) : Memoized (liftM e : CatalogAction α) := by
  cases e with
  | error e => exact memoized_throw e
  | ok x => exact memoized_pure x

/-! ## Columns and foreign keys -/

namespace Catalog

variable {c : Catalog} {t : TableName} {known : TableEntry}

theorem run_entry (t : TableName) (c : Catalog) : (entry t).run.run c =
    .done (c.entries[t]?.elim (.error (.resolve (.unknownTable t.toText))) .ok, c) := by
  have looked (f : Catalog → CatalogAction TableEntry) :
      (get >>= f).run.run c = (f c).run.run c := rfl
  rw [entry, looked]
  cases c.entries[t]? <;> rfl

theorem entry_bind {f : TableEntry → CatalogAction α} (h : c.entries[t]? = some known) :
    (entry t >>= f).run.run c = (f known).run.run c := by
  rw [ExceptT.run_bind, StateT.run_bind, run_entry, h]
  rfl

theorem grows_entry_bind {f : TableEntry → CatalogAction α} {post : α → Catalog → Prop}
    (later : ∀ known, c.entries[t]? = some known → Grows (f known) c post) :
    Grows (entry t >>= f) c post := by
  unfold Grows Leads
  cases h : c.entries[t]? with
  | none =>
    rw [ExceptT.run_bind, StateT.run_bind, run_entry, h]
    exact ⟨le_refl c, nofun⟩
  | some known =>
    rw [entry_bind h]
    exact later known h

/-- More of a table than was known is kept. -/
theorem grows_store_pure {known' : TableEntry} {x : α} {post : α → Catalog → Prop}
    (h : c.entries[t]? = some known) (grown : known ≤ known')
    (stored : ∀ c', c'.entries[t]? = some known' → post x c') :
    Grows (store t known' >>= fun _ => pure x) c post := by
  refine leads_modify_bind.2 (leads_pure ⟨le_insert h grown, ?_⟩)
  rintro _ ⟨⟩
  exact stored _ Std.ExtTreeMap.getElem?_insert_self

theorem recalls_entry_bind {f : TableEntry → CatalogAction α} {x : α}
    (h : c.entries[t]? = some known) (later : ∀ known', known ≤ known' → f known' = pure x) :
    c.Recalls (entry t >>= f) x := by
  intro c' grown
  obtain ⟨known', h', more⟩ := grown t known h
  rw [entry_bind h', later known' more]
  rfl

theorem recalls_columns {columns : List Column} (h : c.entries[t]? = some known)
    (loaded : known.columns = some columns) : c.Recalls (Catalog.columns t) columns := by
  refine recalls_entry_bind h fun known' more => ?_
  rw [more.1 columns loaded]

theorem recalls_foreignKeys {keys : ForeignKeys} (h : c.entries[t]? = some known)
    (loaded : known.foreignKeys = some keys) : c.Recalls (foreignKeys t) keys := by
  refine recalls_entry_bind h fun known' more => ?_
  rw [more.2 keys loaded]

theorem memoized_columns (t : TableName) : Memoized (columns t) := by
  refine fun c => grows_entry_bind fun known h => ?_
  split
  next columns loaded => exact grows_pure (recalls_columns h loaded)
  next unloaded =>
    refine (leads_lift (Action.yields_true _) c).bind ?_ ?_
    · rintro e _ ⟨rfl, -⟩
      exact ⟨le_refl _, nofun⟩
    · rintro columns _ ⟨rfl, -⟩
      have grown : known ≤ { known with columns := some columns } :=
        ⟨fun _ loaded => (nomatch unloaded.symm.trans loaded), fun _ => id⟩
      exact grows_store_pure h grown fun _ stored => recalls_columns stored rfl

theorem memoized_primaryKey (t : TableName) : Memoized (primaryKey t) :=
  (memoized_columns t).bind fun _ => memoized_pure _

/-- Checks leave the catalog as it is, whether or not one of them fails. -/
theorem leads_forM_except (check : ι → Except Error PUnit) (l : List ι) (c : Catalog) :
    Leads (l.forM fun i => (liftM (check i) : CatalogAction PUnit)) c fun _ c' => c' = c := by
  induction l with
  | nil => exact leads_pure rfl
  | cons i l ih =>
    have checked : Leads (liftM (check i) : CatalogAction PUnit) c fun _ c' => c' = c :=
      leads_except rfl
    refine checked.bind (fun _ _ => id) ?_
    rintro _ _ rfl
    exact ih

theorem memoized_foreignKeys (t : TableName) : Memoized (foreignKeys t) := by
  refine fun c => grows_entry_bind fun known h => ?_
  split
  next keys loaded => exact grows_pure (recalls_foreignKeys h loaded)
  next unloaded =>
    -- What is known of the table is still what the catalog holds of it when the keys are stored.
    refine (leads_lift (Action.yields_true _) c).bind ?_ ?_
    · rintro e _ ⟨rfl, -⟩
      exact ⟨le_refl _, nofun⟩
    rintro (loaded : List (ConstraintId × ForeignKey)) c ⟨rfl, -⟩
    refine leads_get_bind.2 ((leads_forM_except _ loaded c).bind ?_ ?_)
    · rintro e _ rfl
      exact ⟨le_refl _, nofun⟩
    rintro _ _ rfl
    generalize loaded.foldl _ _ = keys
    have grown : known ≤ { known with foreignKeys := some keys } :=
      ⟨fun _ => id, fun _ kept => (nomatch unloaded.symm.trans kept)⟩
    exact grows_store_pure h grown fun _ stored => recalls_foreignKeys stored rfl

theorem memoized_foreignKey? (t : TableName) (id : ConstraintId) : Memoized (foreignKey? t id) :=
  (memoized_foreignKeys t).bind fun _ => memoized_pure _

end Catalog

end JoinSheet
