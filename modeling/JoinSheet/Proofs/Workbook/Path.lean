import JoinSheet.Proofs.Sheet.Tables
import JoinSheet.Proofs.Workbook.Fields
import JoinSheet.Server.Scripted
import JoinSheet.Workbook.Basic

/-!
# The join path of a workbook

A workbook starts with one table and a catalog. Whatever commands it is given then, whether they
succeed or fail and whatever the database answers, the join path of its sheet stays coherent: it is
what resolving its keys anew comes to. So do the lists of its tables, keys and numbers when they are
held apart. A catalog that is loaded anew may tell other keys, so this is said of one catalog.

## Main definitions

* `Workbook.Reachable`, `FieldBook.Reachable` — what commands lead to.
* `Workbook.CoherentPath` — what holds of a join path and of the statements that read its tables.
* `FieldBook.CoherentLists` — what holds of the lists of a join path.

## Main statements

* `Workbook.leads_perform` — a command leads from a coherent sheet to a coherent one.
* `Workbook.coherentPath_of_reachable` — the join path of every reachable workbook is coherent, and
  so are the lists that every run on fields leads to.
-/

namespace JoinSheet

namespace Workbook

variable {α β : Type} {w : Workbook} {connection : Option Dialect}

/-- The sheet is coherent with the catalog. -/
def Coherent (w : Workbook) : Prop := w.sheet.Coherent w.catalog

/-- Whatever the answers are, the action leads to a coherent workbook. -/
abbrev Keeps (a : WorkbookAction α) (w : Workbook) : Prop := Leads a w fun _ w' => w'.Coherent

theorem memoized_explore (base : TableName) (ids : List ConstraintId) (draft : SelectDraft) :
    Memoized (explore base ids draft) :=
  (JoinPath.memoized_resolve base ids).bind fun _ => (JoinPath.memoized_available _).bind fun _ =>
    memoized_pure _

/-! ## Parts of commands -/

theorem keeps_except (h : w.Coherent) (e : Except Error α) :
    Keeps (liftM e) w :=
  leads_except h

theorem keeps_except_bind (h : w.Coherent) {e : Except Error α} {f : α → WorkbookAction β}
    (later : ∀ x, e = .ok x → Keeps (f x) w) : Keeps (liftM e >>= f) w :=
  leads_except_bind (fun _ _ => h) later

theorem keeps_action (h : w.Coherent) (a : Action α) : Keeps (liftM a) w :=
  leads_action a.yields_true (fun _ => h) fun _ _ => h

theorem keeps_action_bind (h : w.Coherent) {a : Action α} {post : α → Prop} (ha : a.Yields post)
    {f : α → WorkbookAction β} (later : ∀ x, post x → Keeps (f x) w) :
    Keeps (liftM a >>= f) w :=
  leads_action_bind ha (fun _ => h) later

theorem keeps_getSheet_bind {f : Sheet → WorkbookAction α} (later : Keeps (f w.sheet) w) :
    Keeps (getSheet >>= f) w := later

theorem keeps_setSheet {s : Sheet} (h : s.Coherent w.catalog) : Keeps (setSheet s) w := h

theorem keeps_setSheet_pure {s : Sheet} (h : s.Coherent w.catalog) (x : α) :
    Keeps (setSheet s >>= fun _ => pure x) w := h

theorem keeps_required_bind (h : w.Coherent) {f : Dialect → WorkbookAction α}
    (later : ∀ dialect, Keeps (f dialect) w) : Keeps (liftM (required connection) >>= f) w :=
  keeps_except_bind h fun dialect _ => later dialect

theorem leads_onCatalog {a : CatalogAction α} {post : Except Error α → Workbook → Prop}
    (h : Leads a w.catalog fun r c => post r { w with catalog := c }) :
    Leads (onCatalog a) w post :=
  Dialogue.always_bind.2 h

theorem keeps_onCatalog (h : w.Coherent) {a : CatalogAction α} (ha : Memoized a) :
    Keeps (onCatalog a) w :=
  leads_onCatalog (Leads.mono (ha w.catalog) fun _ _ led => Sheet.Coherent.mono h led.1)

/-- A sheet that an action on the catalog leads to is coherent with the catalog after the action. -/
theorem keeps_onCatalog_bind (h : w.Coherent) {a : CatalogAction Sheet}
    {f : Sheet → WorkbookAction α}
    (ha : Grows a w.catalog fun s c => s.Coherent c)
    (later : ∀ s w', s.Coherent w'.catalog → Keeps (f s) w') : Keeps (onCatalog a >>= f) w := by
  have led : Leads (onCatalog a) w fun r w' =>
      w'.Coherent ∧ ∀ s, r = .ok s → s.Coherent w'.catalog :=
    leads_onCatalog (Leads.mono ha fun _ _ led => ⟨Sheet.Coherent.mono h led.1, led.2⟩)
  exact led.bind (fun _ _ kept => kept.1) fun s w' kept => later s w' (kept.2 s rfl)

/-- A command leads from a coherent sheet to a coherent one, also when it fails. -/
theorem leads_perform (h : w.Coherent) (connection : Option Dialect) (command : Command)
    (kept : command ≠ .loadCatalog) : Keeps (perform connection command) w := by
  cases command with
  | loadCatalog => exact absurd rfl kept
  | listTables | contains | preference => exact h
  | lookup | dialect => exact keeps_except h _
  | resolveColumn | resolveCell => exact keeps_getSheet_bind (keeps_except h _)
  | evaluate => exact keeps_getSheet_bind (keeps_action h _)
  | columns t => exact keeps_required_bind h fun _ => keeps_onCatalog h (Catalog.memoized_columns t)
  | primaryKey t =>
    exact keeps_required_bind h fun _ => keeps_onCatalog h (Catalog.memoized_primaryKey t)
  | foreignKeys t =>
    exact keeps_required_bind h fun _ => keeps_onCatalog h (Catalog.memoized_foreignKeys t)
  | foreignKey t id =>
    exact keeps_required_bind h fun _ => keeps_onCatalog h (Catalog.memoized_foreignKey? t id)
  | explore base ids draft =>
    exact keeps_required_bind h fun _ => keeps_onCatalog h (memoized_explore base ids draft)
  | availableJoins =>
    refine keeps_required_bind h fun _ => keeps_getSheet_bind ?_
    exact keeps_onCatalog h (JoinPath.memoized_available _)
  | installAggregates | insertRow | updateRows | query | execute =>
    exact keeps_required_bind h fun _ => keeps_action h _
  | insertRows =>
    exact keeps_required_bind h fun _ => keeps_getSheet_bind (keeps_action h _)
  | setTable qualified =>
    refine keeps_getSheet_bind (leads_get_bind.2 (keeps_except_bind h fun s chosen => ?_))
    exact keeps_setSheet (Sheet.Coherent.setTable h chosen)
  | setJoin index id =>
    refine keeps_required_bind h fun _ => keeps_getSheet_bind ?_
    exact keeps_onCatalog_bind h (Sheet.grows_setJoin h index id) fun _ _ => keeps_setSheet
  | truncateJoins n => exact keeps_setSheet (Sheet.Coherent.truncateJoins h n)
  | setPreference q p => exact keeps_setSheet (Sheet.Coherent.of_sameTables h ⟨rfl, rfl⟩)
  | loadRows limit offset =>
    refine keeps_required_bind h fun dialect => keeps_getSheet_bind ?_
    exact keeps_onCatalog_bind h (Sheet.grows_loadRows h dialect limit offset) fun s w' loaded =>
      keeps_setSheet_pure loaded _
  | reload =>
    refine keeps_required_bind h fun dialect => keeps_getSheet_bind ?_
    exact keeps_onCatalog_bind h (Sheet.grows_loadRows h dialect _ _) fun s w' loaded =>
      keeps_setSheet_pure loaded _
  | recompute =>
    refine keeps_getSheet_bind (keeps_action_bind h (Sheet.yields_recompute _ _) fun s same => ?_)
    exact keeps_setSheet (Sheet.Coherent.of_sameTables h same)
  | addColumn name =>
    refine keeps_getSheet_bind (keeps_except_bind h fun s added => ?_)
    exact keeps_setSheet_pure (Sheet.Coherent.of_sameTables h (Sheet.sameTables_addColumn added)) _
  | renameColumn i name =>
    refine keeps_getSheet_bind (keeps_except_bind h fun s renamed => ?_)
    exact keeps_setSheet (Sheet.Coherent.of_sameTables h (Sheet.sameTables_renameColumn renamed))
  | deleteColumn i =>
    refine keeps_getSheet_bind (keeps_except_bind h fun s deleted => ?_)
    exact keeps_setSheet_pure
      (Sheet.Coherent.of_sameTables h (Sheet.sameTables_deleteColumn deleted)) _
  | setCell i row f =>
    refine keeps_getSheet_bind (keeps_action_bind h (Sheet.yields_setCell _ _ _ _ _) ?_)
    exact fun s same => keeps_setSheet_pure (Sheet.Coherent.of_sameTables h same) _
  | fillDown i row f =>
    refine keeps_getSheet_bind (keeps_action_bind h (Sheet.yields_fillDown _ _ _ _ _) ?_)
    exact fun s same => keeps_setSheet_pure (Sheet.Coherent.of_sameTables h same) _

/-! ## Reachable workbooks -/

/-- The workbooks that start with one table and any catalog, and what any commands lead to. Each may
be given with or without a connection, and to any database. The catalog is not loaded anew. -/
inductive Reachable : Workbook → Prop where
  | start (base : TableName) (settings : Settings) (catalog : Catalog) :
      Reachable ⟨Sheet.ofTable base settings, catalog⟩
  | command {σ : Type} {w : Workbook} (before : Reachable w) (server : Server σ) (s : σ)
      (connection : Option Dialect) (command : Command) (kept : command ≠ .loadCatalog) :
      Reachable (run server connection command w s).1.2

theorem Reachable.coherent (h : w.Reachable) : w.Coherent := by
  induction h with
  | start base settings catalog => exact .ofTable base settings catalog
  | command _ server s connection command kept ih =>
    exact (leads_perform ih connection command kept).run server s

/-- The join path of the sheet adds a new table to the ones before it with each key, and is what
resolving its keys anew comes to. -/
structure CoherentPath (w : Workbook) : Prop where
  length_keys : w.sheet.path.tables.length = w.sheet.path.keys.length + 1
  length_ids : w.sheet.path.tables.length = w.sheet.path.ids.length + 1
  nodup_tables : w.sheet.path.tables.Nodup
  /-- Each key has the table that it adds at one end and one of the tables before at the other. -/
  ends : ∀ (i : Nat) (key : ForeignKey), w.sheet.path.keys[i]? = some key →
    ∃ new, w.sheet.path.tables[i + 1]? = some new ∧ ∃ old ∈ w.sheet.path.tables.take (i + 1),
      (key.source = new ∧ key.target = old) ∨ (key.source = old ∧ key.target = new)
  /-- In a statement that reads the tables, each `ON` condition is about the table that is joined
  there and one that stands before it. -/
  source : ∀ (s : Select) (text : Text), s.base = w.sheet.path.base →
    s.joins = w.sheet.path.select.joins → s.renderSource = .ok text →
    ∃ base clauses, Identifier.ofTable w.sheet.path.base = .ok base ∧
      Join.Chain w.sheet.path.base w.sheet.path.tables clauses ∧
      text = " FROM " ++ base.render ++ clauses.flatten ++ s.narrowing
  /-- The loaded page comes from the tables of the path. -/
  loaded : ∀ page, w.sheet.page = some page →
    page.window.base = w.sheet.path.base ∧ page.window.joins = w.sheet.path.select.joins
  /-- Nothing is asked of the database to resolve the keys anew. -/
  resolve_eq : (JoinPath.resolve w.sheet.path.base w.sheet.path.ids).run.run w.catalog =
    .done (.ok w.sheet.path, w.catalog)

theorem Reachable.coherentPath (h : w.Reachable) : w.CoherentPath := by
  obtain ⟨resolved, loaded⟩ := h.coherent
  refine ⟨by simp [JoinPath.keys], by simp [JoinPath.ids], resolved.nodup_tables, ?_, ?_, loaded,
    resolved.recalls _ (le_refl _)⟩
  · intro i key hk
    rw [JoinPath.keys, List.getElem?_map, Option.map_eq_some_iff] at hk
    obtain ⟨l, hl, rfl⟩ := hk
    obtain ⟨old, mem, reaches⟩ := resolved.exists_otherSide? hl
    refine ⟨l.table, ?_, old, mem, ?_⟩
    · simp [JoinPath.tables, hl]
    · exact ForeignKey.ends_of_otherSide? reaches
  · rintro ⟨⟩ text rfl rfl h
    obtain ⟨base, clauses, hb, hc, rfl⟩ := Select.renderSource_eq_ok.1 h
    exact ⟨base, clauses, hb, resolved.chain hc, rfl⟩

end Workbook

/-! ## Paths as lists -/

namespace FieldBook

variable {b : FieldBook}

/-- The fields that start with one table and any catalog, and what any commands lead to, as for
workbooks. -/
inductive Reachable : FieldBook → Prop where
  | start (base : TableName) (settings : Settings) (catalog : Catalog) :
      Reachable ⟨{ settings, tables := [base] }, catalog⟩
  | command {σ : Type} {b : FieldBook} (before : Reachable b) (server : Server σ) (d : σ)
      (connection : Option Dialect) (command : Command) (kept : command ≠ .loadCatalog) :
      Reachable (run server connection command b d).1.2

/-- Commands make of fields the fields of what they make of a workbook. -/
theorem Reachable.exists_workbook (h : b.Reachable) :
    ∃ w : Workbook, w.Reachable ∧ w.fields = b := by
  induction h with
  | start base settings catalog =>
    exact ⟨⟨.ofTable base settings, catalog⟩, .start base settings catalog, rfl⟩
  | command _ server d connection command kept ih =>
    obtain ⟨w, reachable, rfl⟩ := ih
    refine ⟨_, reachable.command server d connection command kept, ?_⟩
    rw [run_fields]

/-- The lists of a join path go together: there is one table more than there are keys and numbers,
each key adds a new table, and the tables and the keys are what resolving the numbers anew comes
to. -/
structure CoherentLists (b : FieldBook) : Prop where
  length_keys : b.sheet.tables.length = b.sheet.keys.length + 1
  length_ids : b.sheet.tables.length = b.sheet.ids.length + 1
  nodup_tables : b.sheet.tables.Nodup
  ends : ∀ (i : Nat) (key : ForeignKey), b.sheet.keys[i]? = some key →
    ∃ new, b.sheet.tables[i + 1]? = some new ∧ ∃ old ∈ b.sheet.tables.take (i + 1),
      (key.source = new ∧ key.target = old) ∨ (key.source = old ∧ key.target = new)
  /-- Nothing is asked of the database to resolve the keys anew. -/
  resolve_eq : (PathLists.resolve b.sheet.base b.sheet.ids).run.run b.catalog =
    .done (.ok ⟨b.sheet.tables, b.sheet.keys⟩, b.catalog)
  /-- The lists are those of the coherent path of a workbook. -/
  exists_workbook : ∃ w : Workbook, w.Reachable ∧ w.CoherentPath ∧ w.fields = b

theorem Reachable.coherentLists (h : b.Reachable) : b.CoherentLists := by
  obtain ⟨w, reachable, rfl⟩ := h.exists_workbook
  have path := reachable.coherentPath
  refine ⟨path.length_keys, path.length_ids, path.nodup_tables, path.ends, ?_,
    w, reachable, path, rfl⟩
  rw [PathLists.resolve_eq, ExceptT.run_map, StateT.run_map]
  exact congrArg ((fun r => (JoinPath.lists <$> r.1, r.2)) <$> ·) path.resolve_eq

end FieldBook

namespace Workbook

theorem Reachable.fields {w : Workbook} (h : w.Reachable) : w.fields.Reachable := by
  induction h with
  | start base settings catalog => exact .start base settings catalog
  | @command _ w _ server d connection command kept ih =>
    have next := ih.command server d connection command kept
    rwa [FieldBook.run_fields] at next

/-- The join path of every reachable workbook is coherent. So are the lists of its tables, its keys
and their numbers where they are fields of their own, which only the commands keep together. -/
theorem coherentPath_of_reachable :
    (∀ w : Workbook, w.Reachable → w.CoherentPath) ∧
      ∀ b : FieldBook, b.Reachable → b.CoherentLists :=
  ⟨fun _ reachable => reachable.coherentPath, fun _ reachable => reachable.coherentLists⟩

/-- Lines are joined to their orders, then orders to their customers. -/
theorem coherentPath_of_reachable_joins : ∃ w, Reachable w ∧ CoherentPath w ∧
    w.fields.Reachable ∧ w.fields.CoherentLists ∧
    w.fields.sheet.tables = [⟨"shop", "lines"⟩, ⟨"shop", "orders"⟩, ⟨"shop", "customers"⟩] := by
  have join {w : Workbook} (h : Reachable w) (i : Nat) (id : ConstraintId) :=
    h.command (Scripted.server { tables := [], columns := ∅, keysFor := ∅, failing := none, keys :=
      [(7, ⟨⟨"shop", "lines"⟩, ⟨"shop", "orders"⟩, ["order_id"], ["id"]⟩),
        (8, ⟨⟨"shop", "orders"⟩, ⟨"shop", "customers"⟩, ["customer"], ["id"]⟩)] })
      {} (some .sqlite) (.setJoin i id) (by simp)
  have reachable := join (join (.start ⟨"shop", "lines"⟩ {} (Catalog.ofTables
    [⟨"shop", "lines"⟩, ⟨"shop", "orders"⟩, ⟨"shop", "customers"⟩])) 0 7) 1 8
  exact ⟨_, reachable, coherentPath_of_reachable.1 _ reachable, reachable.fields,
    coherentPath_of_reachable.2 _ reachable.fields, by decide +kernel⟩

end Workbook

end JoinSheet
