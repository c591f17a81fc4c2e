import JoinSheet.Proofs.Database.Coincidence
import JoinSheet.Proofs.Sheet.Loading
import JoinSheet.Proofs.Sheet.Reachable

/-!
# Sheets field by field

A join path can be held as three lists, of its tables, of the keys between them and of the numbers
of the keys, and a page as four fields. Nothing in such fields makes the lists go together or the
page be a whole one; the commands have to, as they change one field after the other. What a command
makes of the fields of a sheet are the fields of what it makes of the sheet. So what holds of a path
and a page by what they are holds of the fields because every command keeps it.

## Main definitions

* `PathLists` — the tables and the keys of a join path.
* `SheetFields` — a sheet with the fields of its path and of its page apart.
* `Sheet.fields`, `SheetFields.sheet` — the fields of a sheet, and the sheet that fields make up.
* `FieldBook.perform` — what a command does to the fields.

## Main statements

* `FieldBook.perform_fields` — a command does to the fields of a sheet what it does to the sheet.
* `SheetFields.Reachable.exists_sheet` — commands lead to the fields of reachable sheets.
-/

namespace JoinSheet

variable {α β : Type} {s : Sheet} {connection : Option Dialect}

/-! ## Join paths as lists -/

/-- The tables of a join path, and the keys between them. -/
structure PathLists where
  tables : List TableName
  keys : List ForeignKey

/-- The tables and the keys of a path. -/
def JoinPath.lists (p : JoinPath) : PathLists := ⟨p.tables, p.keys⟩

namespace PathLists

/-- The lists with one more key: first the table at its far end is added, then the key. -/
def push (p : PathLists) (id : ConstraintId) : CatalogAction PathLists := do
  match ← JoinPath.findKey id p.tables.reverse with
  | none => throw (.graph (.keyNotAttached id))
  | some (key, far) =>
    if far ∈ p.tables then throw (.graph (.alreadyJoined far))
    let p := { p with tables := p.tables ++ [far] }
    return { p with keys := p.keys ++ [key] }

/-- The lists from a base table along the keys with these numbers. -/
def resolve (base : TableName) (ids : List ConstraintId) : CatalogAction PathLists :=
  ids.foldlM push ⟨[base], []⟩

theorem push_lists (p : JoinPath) (id : ConstraintId) :
    (fun q => (q.lists, q.ids)) <$> JoinPath.push p id =
      (fun l => (l, p.ids ++ [id])) <$> push p.lists id := by
  unfold JoinPath.push push
  rw [map_bind, map_bind]
  refine bind_congr fun found => ?_
  cases found with
  | none => rfl
  | some found =>
    obtain ⟨key, far⟩ := found
    dsimp only
    rw [JoinPath.lists]
    split
    · rfl
    · simp [JoinPath.lists, JoinPath.tables, JoinPath.keys, JoinPath.ids]

/-- The lists are those of the path along the same keys, and these are the numbers of its keys. -/
theorem foldlM_push_lists (p : JoinPath) (ids : List ConstraintId) :
    (fun q => (q.lists, q.ids)) <$> ids.foldlM JoinPath.push p =
      (fun l => (l, p.ids ++ ids)) <$> ids.foldlM push p.lists := by
  induction ids generalizing p with
  | nil => simp
  | cons id ids ih =>
    let later (q : PathLists × List ConstraintId) : CatalogAction (PathLists × List ConstraintId) :=
      (fun l => (l, q.2 ++ ids)) <$> ids.foldlM push q.1
    calc
      _ = ((fun q => (q.lists, q.ids)) <$> JoinPath.push p id) >>= later := by
        rw [List.foldlM_cons, map_bind, bind_map_left]
        exact bind_congr fun q => ih q
      _ = ((fun l => (l, p.ids ++ [id])) <$> push p.lists id) >>= later := by rw [push_lists]
      _ = _ := by
        rw [List.foldlM_cons, map_bind, bind_map_left]
        simp

theorem resolve_lists (base : TableName) (ids : List ConstraintId) :
    (fun q => (q.lists, q.ids)) <$> JoinPath.resolve base ids =
      (fun l => (l, ids)) <$> resolve base ids :=
  foldlM_push_lists { base } ids

/-- Keys are resolved to the lists of the path that they are resolved to. -/
theorem resolve_eq (base : TableName) (ids : List ConstraintId) :
    resolve base ids = JoinPath.lists <$> JoinPath.resolve base ids := by
  have same := congrArg (Prod.fst <$> ·) (resolve_lists base ids)
  simpa [Functor.map_map] using same.symm

end PathLists

/-! ## Sheets as fields -/

/-- A sheet with the fields of its join path and of its page apart. -/
structure SheetFields where
  settings : Settings
  tables : List TableName
  keys : List ForeignKey := []
  ids : List ConstraintId := []
  preferences : Std.ExtTreeMap Text Preference := ∅
  columns : List SheetColumn := []
  window : Option Select := none
  rows : List (List Cell) := []
  offset : Nat := 0
  extras : List ExtraColumn := []

/-- The fields of a sheet. -/
def Sheet.fields (s : Sheet) : SheetFields where
  settings := s.settings
  tables := s.path.tables
  keys := s.path.keys
  ids := s.path.ids
  preferences := s.preferences
  columns := s.columns
  window := s.page.map Page.window
  rows := s.rows
  offset := s.offset
  extras := s.extras

namespace SheetFields

/-- The first table. Fields that commands lead to have one. -/
def base (f : SheetFields) : TableName := f.tables.headD ⟨[], []⟩

/-- The sheet that fields make up. -/
def sheet (f : SheetFields) : Sheet where
  settings := f.settings
  path := ⟨f.base, List.zipWith3 Link.mk f.ids f.keys f.tables.tail⟩
  preferences := f.preferences
  page := f.window.map fun window => ⟨f.columns, window, f.rows, f.offset⟩
  extras := f.extras

@[simp] theorem base_fields (s : Sheet) : s.fields.base = s.path.base := rfl

theorem zipWith3_links (links : List Link) :
    List.zipWith3 Link.mk (links.map Link.id) (links.map Link.key) (links.map Link.table) =
      links := by
  induction links with
  | nil => rfl
  | cons l links ih => rw [List.map_cons, List.map_cons, List.map_cons, List.zipWith3, ih]

/-- The fields of a sheet make up the sheet. -/
@[simp] theorem sheet_fields (s : Sheet) : s.fields.sheet = s := by
  obtain ⟨settings, ⟨base, links⟩, preferences, page, extras⟩ := s
  have same := congrArg (fun links => Sheet.mk settings ⟨base, links⟩ preferences page extras)
    (zipWith3_links links)
  cases page with
  | none => exact same
  | some page => exact same

/-! ## Changes of the fields -/

/-- The fields with nothing loaded. -/
def forgetRows (f : SheetFields) : SheetFields :=
  let f := { f with columns := [] }
  let f := { f with window := none }
  let f := { f with rows := [] }
  { f with offset := 0 }

/-- The fields with another base table and no joins. -/
def setTable (f : SheetFields) (c : Catalog) (qualified : Text) : Except Error SheetFields := do
  let table ← c.lookup qualified
  if table = f.base then return f
  let f := { f with tables := [table] }
  let f := { f with keys := [] }
  let f := { f with ids := [] }
  return f.forgetRows

/-- The fields with a foreign key as the join at a place. They change once the path has been
resolved. -/
def setJoin (f : SheetFields) (index : Nat) (id : ConstraintId) : CatalogAction SheetFields := do
  if index > f.ids.length then
    throw (.graph (.joinGap index f.ids.length))
  if f.ids[index]? = some id then return f
  let ids := f.ids.take index ++ [id]
  let path ← PathLists.resolve f.base ids
  let f := { f with tables := path.tables }
  let f := { f with keys := path.keys }
  let f := { f with ids := ids }
  return f.forgetRows

/-- The fields with only the first joins. -/
def truncateJoins (f : SheetFields) (n : Nat) : SheetFields :=
  if n ≥ f.ids.length then f
  else
    let f := { f with ids := f.ids.take n }
    let f := { f with tables := f.tables.take (n + 1) }
    let f := { f with keys := f.keys.take n }
    f.forgetRows

/-- The fields with what a sheet has beside a path and a page. -/
def withOwn (f : SheetFields) (s : Sheet) : SheetFields :=
  { f with settings := s.settings, preferences := s.preferences, extras := s.extras }

/-- The fields with extra columns at least as high as the page. -/
def fitExtras (f : SheetFields) : SheetFields :=
  { f with extras := f.extras.map fun c => { c with cells := padTo f.rows.length {} c.cells } }

/-- The fields with a page loaded: its parts are put in place one by one, then the extra columns are
made as high, and their formulas are evaluated again. -/
def loadRows (f : SheetFields) (dialect : Dialect) (limit offset : Nat) :
    CatalogAction SheetFields := do
  let page ← f.sheet.fetchPage limit offset
  let f := { f with columns := page.columns }
  let f := { f with window := some page.window }
  let f := { f with rows := page.rows }
  let f := { f with offset := page.offset }
  let f := f.fitExtras
  return f.withOwn (← f.sheet.recompute (some dialect))

/-- The fields with the page at their offset loaded again. -/
def reload (f : SheetFields) (dialect : Dialect) : CatalogAction SheetFields :=
  f.loadRows dialect f.settings.pageSize f.offset

theorem setTable_fields (s : Sheet) (c : Catalog) (qualified : Text) :
    s.fields.setTable c qualified = Sheet.fields <$> s.setTable c qualified := by
  unfold setTable Sheet.setTable
  cases c.lookup qualified with
  | error e => rfl
  | ok table =>
    rw [Except.ok_bind, Except.ok_bind, base_fields]
    split <;> rfl

/-- The fields of a sheet after its path has been changed. -/
theorem fields_setPath (s : Sheet) (path : JoinPath) : (s.setPath path).fields =
    ({ s.fields with tables := path.tables, keys := path.keys, ids := path.ids } :
      SheetFields).forgetRows := rfl

theorem setJoin_fields (s : Sheet) (index : Nat) (id : ConstraintId) :
    s.fields.setJoin index id = Sheet.fields <$> s.setJoin index id := by
  have ids : s.fields.ids = s.path.ids := rfl
  have joins : s.path.ids.length = s.path.links.length := List.length_map ..
  unfold setJoin Sheet.setJoin
  rw [ids, joins, base_fields]
  by_cases gap : index > s.path.links.length
  · simp only [if_pos gap]
    rfl
  simp only [if_neg gap]
  by_cases same : s.path.ids[index]? = some id
  · rw [if_pos same, if_pos same, map_pure]
  rw [if_neg same, if_neg same]
  let put (r : PathLists × List ConstraintId) : SheetFields :=
    ({ s.fields with tables := r.1.tables, keys := r.1.keys, ids := r.2 } :
      SheetFields).forgetRows
  have resolved := PathLists.resolve_lists s.path.base (s.path.ids.take index ++ [id])
  calc
    _ = put <$> (fun l => (l, s.path.ids.take index ++ [id])) <$> PathLists.resolve s.path.base
        (s.path.ids.take index ++ [id]) := by
      rw [Functor.map_map, map_eq_pure_bind]
    _ = put <$> (fun q => (q.lists, q.ids)) <$> JoinPath.resolve s.path.base
        (s.path.ids.take index ++ [id]) := by rw [resolved]
    _ = _ := by
      rw [Functor.map_map, map_bind, map_eq_pure_bind]
      rfl

theorem truncateJoins_fields (s : Sheet) (n : Nat) :
    s.fields.truncateJoins n = (s.truncateJoins n).fields := by
  have ids : s.fields.ids = s.path.ids := rfl
  have joins : s.path.ids.length = s.path.links.length := List.length_map ..
  unfold truncateJoins Sheet.truncateJoins
  rw [ids, joins]
  split
  · rfl
  · rw [fields_setPath]
    simp [Sheet.fields, JoinPath.truncate, JoinPath.tables, JoinPath.keys, JoinPath.ids,
      List.map_take]

/-- The fields of a sheet on which only what is its own has changed. -/
theorem withOwn_fields {s' : Sheet} (same : s.SameTables s') :
    s.fields.withOwn s' = s'.fields := by
  obtain ⟨path, page⟩ := same
  simp [withOwn, Sheet.fields, Sheet.columns, Sheet.rows, Sheet.offset, path, page]

theorem loadRows_fields (s : Sheet) (dialect : Dialect) (limit offset : Nat) :
    s.fields.loadRows dialect limit offset = Sheet.fields <$> s.loadRows dialect limit offset := by
  rw [Sheet.loadRows_eq, loadRows, sheet_fields, map_bind]
  refine bind_congr fun page => ?_
  -- The page is in place, whole, before any formula is evaluated.
  have shown : fitExtras { s.fields with
      columns := page.columns, window := some page.window, rows := page.rows,
      offset := page.offset } = (s.setPage page).fields := rfl
  dsimp only
  rw [shown, sheet_fields, map_eq_pure_bind]
  refine ExceptT.ext (StateT.ext fun c => run_bind_congr_of_leads ?_)
  refine (leads_lift ((s.setPage page).yields_recompute (some dialect)) c).mono ?_
  rintro _ _ ⟨-, same⟩ s' rfl
  rw [withOwn_fields (same s' rfl)]

theorem reload_fields (s : Sheet) (dialect : Dialect) :
    s.fields.reload dialect = Sheet.fields <$> s.reload dialect :=
  loadRows_fields s dialect s.settings.pageSize s.offset

end SheetFields

/-! ## Commands on fields -/

/-- A sheet as fields with the catalog that it works with. -/
structure FieldBook where
  sheet : SheetFields
  catalog : Catalog := {}

/-- The fields of the sheet of a workbook, with its catalog. -/
def Workbook.fields (w : Workbook) : FieldBook := ⟨w.sheet.fields, w.catalog⟩

namespace FieldBook

/-- The workbook that the fields make up. -/
def workbook (b : FieldBook) : Workbook := ⟨b.sheet.sheet, b.catalog⟩

/-- Put fields in place of the ones there are, and tell something of them. -/
def put (b : FieldBook) (action : CatalogAction SheetFields) (tell : SheetFields → α) :
    Dialogue (Except Error α × FieldBook) := do
  let (result, catalog) ← action.run.run b.catalog
  return match result with
    | .ok sheet => (.ok (tell sheet), ⟨sheet, catalog⟩)
    | .error e => (.error e, { b with catalog })

/-- What a command does to the fields. Commands that do not choose the tables see the sheet that the
fields make up, and may change what it has beside a path and a page. -/
def perform (connection : Option Dialect) : (c : Command) → FieldBook →
    Dialogue (Except Error c.Reply × FieldBook)
  | .setTable qualified, b => b.put (liftM (b.sheet.setTable b.catalog qualified)) fun _ => ()
  | .setJoin index id, b =>
    b.put (do
      let _ ← Workbook.required connection
      b.sheet.setJoin index id) fun _ => ()
  | .truncateJoins n, b => b.put (pure (b.sheet.truncateJoins n)) fun _ => ()
  | .loadRows limit offset, b =>
    b.put (do b.sheet.loadRows (← Workbook.required connection) limit offset) fun f => f.rows.length
  | .reload, b =>
    b.put (do b.sheet.reload (← Workbook.required connection)) fun f => f.rows.length
  | c, b => do
    let (result, w) ← (Workbook.perform connection c).run.run b.workbook
    return (result, ⟨b.sheet.withOwn w.sheet, w.catalog⟩)

/-- A command on the fields held with a database. -/
def run {σ : Type} (server : Server σ) (connection : Option Dialect) (c : Command) (b : FieldBook)
    (d : σ) : (Except Error c.Reply × FieldBook) × σ :=
  (perform connection c b).run server d

@[simp] theorem workbook_fields (w : Workbook) : w.fields.workbook = w := by
  rw [workbook, Workbook.fields, SheetFields.sheet_fields]

/-- The fields of a sheet that an action leads to are put in place as the sheet is. -/
theorem put_fields {w : Workbook} {changed : CatalogAction SheetFields}
    {action : Sheet → CatalogAction Sheet} {tell : SheetFields → α}
    {next : Sheet → WorkbookAction α}
    (fields : changed = Sheet.fields <$> action w.sheet)
    (puts : ∀ s w', (next s).run.run w' = .done (.ok (tell s.fields), { w' with sheet := s })) :
    w.fields.put changed tell = (fun r => (r.1, r.2.fields)) <$>
      (do next (← Workbook.onCatalog (action (← Workbook.getSheet)))).run.run w := by
  have mapped : changed.run.run w.catalog =
      (fun r => (Sheet.fields <$> r.1, r.2)) <$> (action w.sheet).run.run w.catalog := by
    rw [fields, ExceptT.run_map, StateT.run_map]
    rfl
  rw [put, Workbook.fields, mapped, bind_map_left, Workbook.run_getSheet_bind,
    Workbook.run_onCatalog_bind, map_bind]
  refine bind_congr fun r => ?_
  obtain ⟨e | s, c⟩ := r
  · rfl
  · dsimp only
    rw [puts]
    rfl

theorem perform_of_still {c : Command} (still : c.choosesTables = false) (b : FieldBook) :
    perform connection c b = do
      let (result, w) ← (Workbook.perform connection c).run.run b.workbook
      return (result, ⟨b.sheet.withOwn w.sheet, w.catalog⟩) := by
  cases c <;> first | rfl | cases still

/-- A command that does not choose the tables leaves the fields of the path and of the page. -/
theorem perform_fields_of_still {c : Command} (still : c.choosesTables = false) (w : Workbook) :
    perform connection c w.fields =
      (fun r => (r.1, r.2.fields)) <$> (Workbook.perform connection c).run.run w := by
  have led : Leads (Workbook.perform connection c) w fun _ w' =>
      w.sheet.SameTables w'.sheet := by
    refine Leads.mono (Workbook.turns_becomes connection c w) fun _ w' turned => ?_
    obtain kept | ⟨-, becomes⟩ := turned
    · exact kept ▸ .refl w.sheet
    · exact becomes.sameTables still
  rw [perform_of_still still, workbook_fields, map_eq_pure_bind]
  refine Dialogue.bind_congr_of_always (Dialogue.Always.mono led fun r same => ?_)
  obtain ⟨result, w'⟩ := r
  exact congrArg (fun f => pure (result, (⟨f, w'.catalog⟩ : FieldBook)))
    (SheetFields.withOwn_fields same)

/-- Both go on with the dialect of the connection, or fail without one. -/
theorem put_required {w : Workbook} {action : Dialect → CatalogAction SheetFields}
    {tell : SheetFields → α} {f : Dialect → WorkbookAction α}
    (same : ∀ dialect, w.fields.put (action dialect) tell =
      (fun r => (r.1, r.2.fields)) <$> (f dialect).run.run w) :
    w.fields.put (do action (← Workbook.required connection)) tell =
      (fun r => (r.1, r.2.fields)) <$>
        (do f (← Workbook.required connection) : WorkbookAction α).run.run w := by
  cases connection with
  | none => rfl
  | some dialect => exact same dialect

/-- A command does to the fields of a sheet what it does to the sheet. -/
theorem perform_fields (connection : Option Dialect) (c : Command) (w : Workbook) :
    perform connection c w.fields =
      (fun r => (r.1, r.2.fields)) <$> (Workbook.perform connection c).run.run w := by
  cases still : c.choosesTables with
  | false => exact perform_fields_of_still still w
  | true =>
    cases c with
    | setTable qualified =>
      change w.fields.put (liftM (w.sheet.fields.setTable w.catalog qualified)) _ =
        _ <$> ((liftM (w.sheet.setTable w.catalog qualified) : WorkbookAction Sheet) >>=
          Workbook.setSheet).run.run w
      rw [SheetFields.setTable_fields, Workbook.run_liftM_bind]
      cases w.sheet.setTable w.catalog qualified <;> rfl
    | setJoin index id =>
      refine put_required fun dialect => ?_
      exact put_fields (SheetFields.setJoin_fields w.sheet index id) fun _ _ => rfl
    | truncateJoins n =>
      change w.fields.put (pure (w.sheet.fields.truncateJoins n)) _ = _
      rw [SheetFields.truncateJoins_fields]
      rfl
    | loadRows limit offset =>
      refine put_required fun dialect => ?_
      exact put_fields (SheetFields.loadRows_fields w.sheet dialect limit offset) fun _ _ => rfl
    | reload =>
      refine put_required fun dialect => ?_
      exact put_fields (SheetFields.reload_fields w.sheet dialect) fun _ _ => rfl
    | _ => cases still

theorem run_fields {σ : Type} (server : Server σ) (connection : Option Dialect) (c : Command)
    (w : Workbook) (d : σ) : run server connection c w.fields d =
      let done := Workbook.run server connection c w d
      ((done.1.1, done.1.2.fields), done.2) := by
  rw [run, perform_fields, map_eq_pure_bind, Dialogue.run_bind]
  rfl

end FieldBook

/-! ## Reachable fields -/

namespace SheetFields

variable {f : SheetFields}

/-- The fields that start with one table and nothing else, and what any commands lead to. Each
command may be given with any catalog, with or without a connection, and to any database. -/
inductive Reachable : SheetFields → Prop where
  | start (base : TableName) (settings : Settings) : Reachable { settings, tables := [base] }
  | command {σ : Type} {f : SheetFields} (before : Reachable f) (catalog : Catalog)
      (server : Server σ) (d : σ) (connection : Option Dialect) (command : Command) :
      Reachable (FieldBook.run server connection command ⟨f, catalog⟩ d).1.2.sheet

/-- What commands make of fields are the fields of what they make of a sheet. -/
theorem Reachable.exists_sheet (h : f.Reachable) : ∃ s : Sheet, s.Reachable ∧ s.fields = f := by
  induction h with
  | start base settings => exact ⟨.ofTable base settings, .start base settings, rfl⟩
  | command _ catalog server d connection command ih =>
    obtain ⟨s, reachable, rfl⟩ := ih
    refine ⟨_, reachable.command catalog server d connection command, ?_⟩
    exact congrArg (fun r => r.1.2.sheet)
      (FieldBook.run_fields server connection command ⟨s, catalog⟩ d).symm

end SheetFields

theorem Sheet.Reachable.fields (h : s.Reachable) : s.fields.Reachable := by
  induction h with
  | start base settings => exact .start base settings
  | @command _ s _ catalog server d connection command ih =>
    have next := ih.command catalog server d connection command
    have same := FieldBook.run_fields server connection command ⟨s, catalog⟩ d
    rw [Workbook.fields] at same
    rwa [same] at next

end JoinSheet
