import JoinSheet.Workbook.Command

/-!
# Workbooks

A workbook is a sheet with the catalog that it works with. A command either succeeds and may change the
sheet, or fails and leaves it. What the catalog has loaded by then is kept in both cases.

## Main definitions

* `Workbook`, `WorkbookAction` — workbooks and actions on them.
* `Workbook.perform` — what a command does.
-/

namespace JoinSheet

/-- A sheet with the catalog that it works with. -/
structure Workbook where
  sheet : Sheet
  catalog : Catalog := {}

/-- An action on a workbook. -/
abbrev WorkbookAction := ExceptT Error (StateT Workbook Dialogue)

instance : MonadLift (Except Error) WorkbookAction where
  monadLift e := ExceptT.mk (pure e)

instance : MonadLift Action WorkbookAction where
  monadLift action := ExceptT.mk (StateT.lift action.run)

namespace Workbook

/-- An action on the catalog of a workbook. -/
def onCatalog {α : Type} (action : CatalogAction α) : WorkbookAction α :=
  ExceptT.mk fun w => do
    let (result, catalog) ← action.run.run w.catalog
    return (result, { w with catalog })

/-- A workbook of one table with nothing loaded. -/
def ofTable (base : TableName) (settings : Settings) : Workbook :=
  { sheet := Sheet.ofTable base settings }

/-- The sheet. -/
def getSheet : WorkbookAction Sheet := return (← get).sheet

/-- Put a sheet in place of the one there is. -/
def setSheet (sheet : Sheet) : WorkbookAction Unit := modify fun w => { w with sheet }

/-- The dialect of a connection that a command cannot do without. -/
def required (connection : Option Dialect) : Except Error Dialect :=
  match connection with
  | some dialect => .ok dialect
  | none => .error (.database "no connection")

/-- The rows of the sheet after it has been loaded. -/
def putLoaded (sheet : Sheet) : WorkbookAction Nat := do
  setSheet sheet
  return sheet.rows.length

/-- What can be told of the path along some keys. -/
def explore (base : TableName) (ids : List ConstraintId) (draft : SelectDraft) :
    CatalogAction Exploration := do
  let path ← JoinPath.resolve base ids
  let statement := draft.addTo path.select >>= Select.render
  let available ← path.available
  return { path, statement, available }

/-- What a command does, with a connection to a database of some dialect or without one. -/
def perform (connection : Option Dialect) : (c : Command) → WorkbookAction c.Reply
  | .loadCatalog => do
    let _ ← required connection
    let catalog ← Catalog.load
    modify fun w => { w with catalog }
  | .listTables => return (← get).catalog.tables
  | .contains table => return (← get).catalog.contains table
  | .lookup qualified => do (← get).catalog.lookup qualified
  | .columns table => do
    let _ ← required connection
    onCatalog (Catalog.columns table)
  | .primaryKey table => do
    let _ ← required connection
    onCatalog (Catalog.primaryKey table)
  | .foreignKeys table => do
    let _ ← required connection
    onCatalog (Catalog.foreignKeys table)
  | .foreignKey table id => do
    let _ ← required connection
    onCatalog (Catalog.foreignKey? table id)
  | .dialect => required connection
  | .installAggregates => do
    let _ ← required connection
    Action.ask .installAggregates
  | .explore base ids draft => do
    let _ ← required connection
    onCatalog (explore base ids draft)
  | .setTable qualified => do
    setSheet (← (← getSheet).setTable (← get).catalog qualified)
  | .setJoin index id => do
    let _ ← required connection
    setSheet (← onCatalog ((← getSheet).setJoin index id))
  | .truncateJoins n => do setSheet ((← getSheet).truncateJoins n)
  | .availableJoins => do
    let _ ← required connection
    onCatalog (← getSheet).path.available
  | .setPreference qualified p => do setSheet ((← getSheet).setPreference qualified p)
  | .preference qualified => return (← getSheet).preference qualified
  | .loadRows limit offset => do
    let dialect ← required connection
    putLoaded (← onCatalog ((← getSheet).loadRows dialect limit offset))
  | .reload => do
    let dialect ← required connection
    putLoaded (← onCatalog ((← getSheet).reload dialect))
  | .recompute => do setSheet (← (← getSheet).recompute connection)
  | .evaluate formula => do (← getSheet).evaluate connection formula
  | .resolveColumn name => do (← getSheet).resolveColumn name
  | .resolveCell name row => do (← getSheet).resolveCell name row
  | .addColumn name => do
    let sheet ← getSheet
    setSheet (← sheet.addColumn name)
    return sheet.extras.length
  | .renameColumn i name => do setSheet (← (← getSheet).renameColumn i name)
  | .deleteColumn i => do
    let (sheet, column) ← (← getSheet).deleteColumn i
    setSheet sheet
    return column
  | .setCell i row formula => do
    let (sheet, cell) ← (← getSheet).setCell connection i row formula
    setSheet sheet
    return cell
  | .fillDown i row formula => do
    let (sheet, count) ← (← getSheet).fillDown connection i row formula
    setSheet sheet
    return count
  | .insertRow table values returning => do
    let _ ← required connection
    insertRow table values returning
  | .insertRows keys values references => do
    let _ ← required connection
    insertRows (keys.getD (← getSheet).path.keys) values references
  | .updateRows values keys => do
    let _ ← required connection
    updateRows values keys
  | .query sql params => do
    let _ ← required connection
    Action.query sql params
  | .execute sql params => do
    let _ ← required connection
    Action.execute sql params

/-- A command held with a database: its result, and the workbook and the database after it. -/
def run {σ : Type} (server : Server σ) (connection : Option Dialect) (c : Command) (w : Workbook)
    (s : σ) : (Except Error c.Reply × Workbook) × σ :=
  (((perform connection c).run).run w).run server s

end Workbook

end JoinSheet
