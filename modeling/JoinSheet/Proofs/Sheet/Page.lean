import JoinSheet.Proofs.Evaluation.Failure
import JoinSheet.Proofs.Sheet.Loading
import JoinSheet.Proofs.Workbook.Fields
import JoinSheet.Proofs.Write.Acyclic
import JoinSheet.Server.Scripted

/-!
# The page and the join path

A page belongs to the path that it was loaded for: it comes from the tables of the path and shows
their columns, those of one table after those of another. A command that changes the path forgets
the page. So formulas never see columns of a table that has left the path, and never miss the page.
The fields of a page that are held apart are all those of one page, or all of none.

## Main definitions

* `Page.Belongs` — a page of the tables of a path.
* `SheetFields.Loaded`, `SheetFields.Unloaded` — the same of fields.

## Main statements

* `Sheet.Reachable.belongs` — the page of a reachable sheet belongs to its path.
* `Sheet.Reachable.belongs_or_unloaded` — what names denote then, and that no evaluation misses the
  page; and what holds of the fields of a page.
-/

namespace JoinSheet

variable {α β : Type} {c c' : Catalog}

/-- The page comes from the tables of the path. Its columns are those of the tables in their order,
for each table some of its own. -/
structure Page.Belongs (page : Page) (path : JoinPath) : Prop where
  base : page.window.base = path.base
  joins : page.window.joins = path.select.joins
  grouped : ∃ groups, List.Forall₂ (fun t group => ∀ c ∈ group, c.table = t) path.tables groups ∧
    page.columns = groups.flatten

/-! ## Columns in groups -/

section Groups

variable {tables : List TableName} {groups : List (List SheetColumn)}

theorem table_mem_of_groups
    (h : List.Forall₂ (fun t group => ∀ c ∈ group, c.table = t) tables groups) {c : SheetColumn}
    (mem : c ∈ groups.flatten) : c.table ∈ tables := by
  induction h with
  | nil => cases mem
  | cons own _ ih =>
    rw [List.flatten_cons, List.mem_append] at mem
    obtain here | later := mem
    · exact own c here ▸ List.mem_cons_self
    · exact List.mem_cons_of_mem _ (ih later)

/-- Columns in groups stand in the order of their tables. -/
theorem pairwise_idxOf_of_groups
    (h : List.Forall₂ (fun t group => ∀ c ∈ group, c.table = t) tables groups)
    (distinct : tables.Nodup) :
    groups.flatten.Pairwise fun a b => tables.idxOf a.table ≤ tables.idxOf b.table := by
  induction h with
  | nil => exact .nil
  | @cons t group tables groups own rest ih =>
    obtain ⟨new, distinct⟩ := List.nodup_cons.1 distinct
    have first (a : SheetColumn) (mem : a ∈ group) : (t :: tables).idxOf a.table = 0 := by
      rw [own a mem, List.idxOf_cons_self]
    have later (a : SheetColumn) (mem : a ∈ groups.flatten) :
        (t :: tables).idxOf a.table = tables.idxOf a.table + 1 :=
      List.idxOf_cons_ne _ fun same => new (same ▸ table_mem_of_groups rest mem)
    rw [List.flatten_cons, List.pairwise_append]
    refine ⟨List.pairwise_of_forall_mem_list fun a ha b _ => ?_, ?_, fun a ha b _ => ?_⟩
    · exact (first a ha).trans_le (Nat.zero_le _)
    · refine (ih distinct).imp_of_mem fun ha hb before => ?_
      rw [later _ ha, later _ hb]
      exact Nat.succ_le_succ before
    · exact (first a ha).trans_le (Nat.zero_le _)

end Groups

/-! ## Loading -/

theorem forall₂_of_leadsBy_mapM {f : α → CatalogAction β} {l : List α} {ys : List β}
    {log : List Exchange} (h : LeadsBy (l.mapM f) c log ys c') :
    List.Forall₂ (fun x y => ∃ c part c', LeadsBy (f x) c part y c') l ys := by
  induction l generalizing c c' log ys with
  | nil =>
    obtain ⟨-, rfl, -⟩ := leadsBy_pure.1 h
    exact .nil
  | cons x l ih =>
    rw [List.mapM_cons] at h
    obtain ⟨y, c₁, first, _, head, h, -⟩ := leadsBy_bind.1 h
    obtain ⟨ys', _, _, _, tail, h, -⟩ := leadsBy_bind.1 h
    obtain ⟨-, rfl, -⟩ := leadsBy_pure.1 h
    exact .cons ⟨c, first, c₁, head⟩ (ih tail)

namespace Sheet

variable {s s' : Sheet}

theorem table_eq_of_tableLayout {t : TableName} {columns : List SheetColumn} {log : List Exchange}
    (h : LeadsBy (s.tableLayout t) c log columns c') : ∀ c ∈ columns, c.table = t := by
  obtain ⟨found, _, _, _, -, h, -⟩ := leadsBy_bind.1 h
  obtain ⟨-, rfl, -⟩ := leadsBy_pure.1 h
  intro c mem
  obtain ⟨_, -, rfl⟩ := List.mem_map.1 (List.mem_filter.1 (List.mem_mergeSort.1 mem)).1
  rfl

/-- The page that a load shows belongs to the path. -/
theorem belongs_of_fetchPage {limit offset : Nat} {page : Page} {log : List Exchange}
    (h : LeadsBy (s.fetchPage limit offset) c log page c') : page.Belongs s.path := by
  obtain ⟨columns, _, _, _, laid, h, -⟩ := leadsBy_bind.1 h
  obtain ⟨primaryKey, _, _, _, -, h, -⟩ := leadsBy_bind.1 h
  obtain ⟨window, read, h⟩ := leadsBy_liftM_bind.1 h
  obtain ⟨projection, _, _, _, -, h, -⟩ := leadsBy_bind.1 h
  obtain ⟨sql, -, h⟩ := leadsBy_liftM_bind.1 h
  obtain ⟨rows, _, _, _, -, h, -⟩ := leadsBy_bind.1 h
  obtain ⟨-, rfl, -⟩ := leadsBy_pure.1 h
  obtain ⟨groups, _, _, _, each, laid, -⟩ := leadsBy_bind.1 laid
  obtain ⟨-, rfl, -⟩ := leadsBy_pure.1 laid
  obtain ⟨base, joins⟩ := window_eq_ok read
  refine ⟨base, joins, groups, (forall₂_of_leadsBy_mapM each).imp fun t group led => ?_, rfl⟩
  obtain ⟨_, _, _, led⟩ := led
  exact table_eq_of_tableLayout led

/-- A command leads from a page that belongs to the path to one that does. -/
theorem Becomes.belongs {connection : Option Dialect} {command : Command}
    (h : s.Becomes connection command s')
    (before : ∀ page, s.page = some page → page.Belongs s.path) :
    ∀ page, s'.page = some page → page.Belongs s'.path := by
  intro page loaded
  cases loads : command.loads with
  | false =>
    obtain ⟨path, same⟩ | none := h.sameTables_or loads
    · rw [path]
      exact before page (same ▸ loaded)
    · cases none.symm.trans loaded
  | true =>
    have shown : ∃ dialect limit offset c c' log,
        LeadsBy (s.loadRows dialect limit offset) c log s' c' := by
      cases h with
      | load _ _ loaded => exact ⟨_, _, _, _, _, _, loaded⟩
      | _ => cases loads
    obtain ⟨dialect, limit, offset, _, _, _, shown⟩ := shown
    rw [loadRows_eq] at shown
    obtain ⟨fetched, _, _, _, first, evaluated, -⟩ := leadsBy_bind.1 shown
    obtain ⟨path, same⟩ :=
      (leadsBy_liftM.1 evaluated).1.of_yields (yields_recompute _ (some dialect))
    obtain rfl : fetched = page := Option.some.inj (same.symm.trans loaded)
    rw [path]
    exact belongs_of_fetchPage first

/-- The page of a reachable sheet belongs to its path. -/
theorem Reachable.belongs (h : s.Reachable) : ∀ page, s.page = some page → page.Belongs s.path :=
  h.of_becomes (P := fun s => ∀ page, s.page = some page → page.Belongs s.path)
    (fun _ _ => nofun) fun _ _ _ _ before becomes => becomes.belongs before

/-- The columns of a reachable sheet are columns of the tables of its path. -/
theorem Reachable.table_mem_path (h : s.Reachable) : ∀ c ∈ s.columns, c.table ∈ s.path.tables := by
  intro c mem
  cases loaded : s.page with
  | none => simp [columns, loaded] at mem
  | some page =>
    obtain ⟨groups, grouped, shown⟩ := (h.belongs page loaded).grouped
    exact table_mem_of_groups grouped (by simpa [columns, loaded, shown] using mem)

/-! ## Evaluation -/

theorem fails_scan (s : Sheet) (formula : Text) :
    Except.Fails Error.Evaluative (s.scan formula) := by
  unfold scan Formula.scan
  split
  · trivial
  · split
    · cases Formula.classify _ _ _ <;> trivial
    · trivial

theorem fails_evaluateTokens (s : Sheet) (connection : Option Dialect) (formula : Text)
    (tokens : List Token) :
    (s.evaluateTokens connection formula tokens).Fails Error.Evaluative :=
  Action.fails_bind (Scope.fails_evaluate _ tokens) fun _ => Action.fails_pure _

theorem fails_evaluate (s : Sheet) (connection : Option Dialect) (formula : Text) :
    (s.evaluate connection formula).Fails Error.Evaluative :=
  Action.fails_bind (Action.fails_liftM (s.fails_scan formula)) fun _ =>
    s.fails_evaluateTokens connection formula _

/-! ## Reachable pages -/

theorem Reachable.unloaded_or_belongs (h : s.Reachable) :
    (s.page = none ∧ s.columns = [] ∧ s.rows = [] ∧ s.offset = 0) ∨
      ∃ page, s.page = some page ∧ page.Belongs s.path ∧
        ∀ c ∈ s.columns, c.table ∈ s.path.tables := by
  cases loaded : s.page with
  | none => exact .inl (by simp [columns, rows, offset, loaded])
  | some page => exact .inr ⟨page, rfl, h.belongs page loaded, h.table_mem_path⟩

/-- The columns of a reachable sheet stand in the order of the tables of its path. -/
theorem Reachable.pairwise_idxOf (h : s.Reachable) : s.columns.Pairwise fun a b =>
    s.path.tables.idxOf a.table ≤ s.path.tables.idxOf b.table := by
  obtain ⟨_, resolved⟩ := h.resolved
  cases loaded : s.page with
  | none => simp [columns, loaded]
  | some page =>
    obtain ⟨groups, grouped, shown⟩ := (h.belongs page loaded).grouped
    simpa [columns, loaded, shown] using pairwise_idxOf_of_groups grouped resolved.nodup_tables

end Sheet

namespace SheetFields

variable {f : SheetFields}

/-- No field tells anything of a page. -/
structure Unloaded (f : SheetFields) : Prop where
  columns : f.columns = []
  window : f.window = none
  rows : f.rows = []
  offset : f.offset = 0

/-- The window comes from the tables of the path, and the columns are those of the tables in their
order. -/
structure Loaded (f : SheetFields) (window : Select) : Prop where
  shown : f.window = some window
  base : window.base = f.base
  joins : window.joins = List.zipWith Join.along f.keys f.tables.tail
  grouped : ∃ groups, List.Forall₂ (fun t group => ∀ c ∈ group, c.table = t) f.tables groups ∧
    f.columns = groups.flatten

theorem loaded_fields {s : Sheet} {page : Page} (there : s.page = some page)
    (belongs : page.Belongs s.path) : s.fields.Loaded page.window where
  shown := congrArg (Option.map Page.window) there
  base := belongs.base
  joins := by
    have along : s.path.select.joins =
        List.zipWith Join.along s.path.keys s.path.tables.tail := by
      simp [JoinPath.select, JoinPath.keys, JoinPath.tables, List.zipWith_map, List.zipWith_self]
    exact belongs.joins.trans along
  grouped := by
    obtain ⟨groups, grouped, shown⟩ := belongs.grouped
    exact ⟨groups, grouped, by simp [Sheet.fields, Sheet.columns, there, shown]⟩

/-- Fields that commands lead to tell of no page at all, or of one that belongs to the path. -/
theorem Reachable.unloaded_or_loaded (h : f.Reachable) :
    f.Unloaded ∨ ∃ window, f.Loaded window := by
  obtain ⟨s, reachable, rfl⟩ := h.exists_sheet
  obtain ⟨none, columns, rows, offset⟩ | ⟨page, there, belongs, -⟩ := reachable.unloaded_or_belongs
  · exact .inl ⟨columns, congrArg (Option.map Page.window) none, rows, offset⟩
  · exact .inr ⟨page.window, loaded_fields there belongs⟩

end SheetFields

namespace Sheet

variable {s : Sheet}

/-- On a reachable sheet nothing is loaded, or the page belongs to the path. An evaluation fails
because nothing is loaded only if the database itself says so. A plain name denotes a column of the
earliest table that shows one of that name, and an extra column only if no table does. A name with
points denotes no extra column. Fields that commands change one by one are those of such a sheet,
and tell of no page at all or of one that belongs to the path. -/
theorem Reachable.belongs_or_unloaded :
    (∀ s : Sheet, s.Reachable →
      ((s.page = none ∧ s.columns = [] ∧ s.rows = [] ∧ s.offset = 0) ∨
        ∃ page, s.page = some page ∧ page.Belongs s.path ∧
          ∀ c ∈ s.columns, c.table ∈ s.path.tables) ∧
      (∀ (σ : Type) (server : Server σ) (d : σ) (connection : Option Dialect) (formula : Text)
        (base : TableName),
        (s.evaluate connection formula).result server d = .error (.resolve (.nothingLoaded base)) →
          ∃ x ∈ (s.evaluate connection formula).transcript server d,
            x.answer = .error (.resolve (.nothingLoaded base))) ∧
      (∀ (σ : Type) (server : Server σ) (d : σ) (connection : Option Dialect) (tokens : List Token)
        (base : TableName),
        (Scope.evaluate ⟨s, connection⟩ tokens).result server d =
          .error (.resolve (.nothingLoaded base)) →
          ∃ x ∈ (Scope.evaluate ⟨s, connection⟩ tokens).transcript server d,
            x.answer = .error (.resolve (.nothingLoaded base))) ∧
      (∀ name, '.' ∉ name →
        (∀ c ∈ s.columns, c.column.name = name → ∃ i first,
          s.resolveColumn name = .ok (.database i first) ∧ s.columns[i]? = some first ∧
            first.column.name = name ∧
              s.path.tables.idxOf first.table ≤ s.path.tables.idxOf c.table) ∧
        ((∀ c ∈ s.columns, c.column.name ≠ name) →
          s.resolveColumn name = match s.extras.findIdx? fun c => c.name == name with
            | some i => .ok (.extra i)
            | none => .error (.resolve (.unknownColumn name)))) ∧
      ∀ name i, '.' ∈ name → s.resolveColumn name ≠ .ok (.extra i)) ∧
    ∀ f : SheetFields, f.Reachable →
      (f.Unloaded ∨ ∃ window, f.Loaded window) ∧ ∃ s : Sheet, s.Reachable ∧ s.fields = f := by
  refine ⟨fun s h => ⟨h.unloaded_or_belongs, fun σ server d connection formula base failed => ?_,
    fun σ server d connection tokens base failed => ?_, fun name plain => ⟨?_, ?_⟩,
    fun name i points => resolveColumn_ne_extra points i⟩,
    fun f h => ⟨h.unloaded_or_loaded, h.exists_sheet⟩⟩
  · exact (s.fails_evaluate connection formula).answered failed id
  · exact (Scope.fails_evaluate _ tokens).answered failed id
  · exact fun c mem named =>
      exists_resolveColumn_of_mem (fun _ => Nat.le_refl _) h.pairwise_idxOf plain mem named
  · exact resolveColumn_of_forall_ne plain

/-- Orders are joined to their lines, and both tables show a column `id`. The name denotes the
column of the orders before that of the lines, and the extra column once nothing is loaded. -/
theorem belongs_or_unloaded_orders :
    let orders : TableName := ⟨"s", "orders"⟩
    let lines : TableName := ⟨"s", "lines"⟩
    let columns : List (Text × List Column) :=
      [("s.orders", [{ name := "id" }]), ("s.lines", [{ name := "id" }])]
    let keys : List (ConstraintId × ForeignKey) := [(7, ⟨lines, orders, ["order"], ["id"]⟩)]
    let db : Scripted := ⟨[], .ofList columns, keys, ∅, none⟩
    let script : Script Request := { answers := [.rows [[some "3", none]]] }
    let after (s : Sheet) (commands : List Command) : Sheet :=
      s.after (Scripted.server db) script (some .sqlite) (Catalog.ofTables [orders, lines]) commands
    let loaded := after (.ofTable orders {}) [.addColumn (some "id"), .setJoin 0 7, .reload]
    let left := after loaded [.truncateJoins 0]
    loaded.Reachable ∧ left.Reachable ∧
      loaded.columns = [⟨orders, { name := "id" }⟩, ⟨lines, { name := "id" }⟩] ∧
      (∃ page, loaded.page = some page ∧ page.Belongs loaded.path) ∧
      (∃ window, loaded.fields.Loaded window) ∧
      loaded.resolveColumn "id" = .ok (.database 0 ⟨orders, { name := "id" }⟩) ∧
      left.page = none ∧ left.resolveColumn "id" = .ok (.extra 0) := by
  intro orders lines columns keys db script after loaded left
  have reachable : loaded.Reachable := (Reachable.start orders {}).after _ _ _ _ _
  have reachable' : left.Reachable := reachable.after _ _ _ _ _
  have emptied : left.page = none := by decide +kernel
  obtain ⟨sheets, fields⟩ := Reachable.belongs_or_unloaded
  refine ⟨reachable, reachable', by decide +kernel, ?_, ?_, by decide +kernel, emptied, ?_⟩
  · obtain ⟨none, -⟩ | ⟨page, there, belongs, -⟩ := (sheets loaded reachable).1
    · exact absurd none (by decide +kernel)
    · exact ⟨page, there, belongs⟩
  · obtain unloaded | shown := (fields loaded.fields reachable.fields).1
    · exact absurd unloaded.columns (by decide +kernel)
    · exact shown
  · obtain ⟨-, -, -, plain, -⟩ := sheets left reachable'
    refine ((plain "id" (by decide)).2 fun c mem => ?_).trans ?_
    · rw [Sheet.columns, emptied] at mem
      cases mem
    · decide +kernel

end Sheet

end JoinSheet
