import JoinSheet.Sheet.Extra

/-!
# Join path and page

Choosing the tables of a sheet and loading a page of their rows. Whatever changes the join path
forgets the loaded page.

## Main definitions

* `Sheet.setTable`, `Sheet.setJoin`, `Sheet.truncateJoins` — changes of the join path.
* `Sheet.layout`, `Sheet.window` — the visible columns in order, and the selection they are read by.
* `Sheet.recompute` — every formula evaluated again.
* `Sheet.loadRows`, `Sheet.reload` — a page loaded, and the formulas evaluated on it.
-/

namespace JoinSheet

namespace Sheet

/-! ## Join path -/

/-- The sheet with another join path, and nothing loaded. -/
def setPath (s : Sheet) (path : JoinPath) : Sheet := { s with path, page := none }

/-- The sheet with another base table and no joins. The base table it has already changes nothing. -/
def setTable (s : Sheet) (c : Catalog) (qualified : Text) : Except Error Sheet := do
  let table ← c.lookup qualified
  return if table = s.path.base then s else s.setPath { base := table }

/-- The sheet with a foreign key as the join at a place; later joins are dropped. The key that is
there already changes nothing. -/
def setJoin (s : Sheet) (index : Nat) (id : ConstraintId) : CatalogAction Sheet := do
  if index > s.path.links.length then
    throw (.graph (.joinGap index s.path.links.length))
  if s.path.ids[index]? = some id then return s
  return s.setPath (← JoinPath.resolve s.path.base (s.path.ids.take index ++ [id]))

/-- The sheet with only its first joins. -/
def truncateJoins (s : Sheet) (n : Nat) : Sheet :=
  if n ≥ s.path.links.length then s else s.setPath (s.path.truncate n)

/-! ## Layout -/

/-- The visible columns of a table, by preference or else declared position. -/
def tableLayout (s : Sheet) (t : TableName) : CatalogAction (List SheetColumn) := do
  let columns := (← Catalog.columns t).map fun column => (⟨t, column⟩ : SheetColumn)
  let place (c : SheetColumn) : Int := (s.preference c.qualified).index.getD c.column.position
  return (columns.filter fun c => !(s.preference c.qualified).hide).mergeSort
    fun a b => place a ≤ place b

/-- The visible columns of all tables, in the order of the join path. -/
def layout (s : Sheet) : CatalogAction (List SheetColumn) := do
  return (← s.path.tables.mapM s.tableLayout).flatten

/-- The conditions that the preferences put on visible columns. Blank filters put none. -/
def filterClauses (s : Sheet) (columns : List SheetColumn) : Except Error (List Clause) :=
  (columns.filterMap fun c =>
    ((s.preference c.qualified).filter.filter fun f => f.trim ≠ []).map fun f => (c, f)).mapM
      fun (c, filter) => Clause.ofFilter c.qualified filter

/-- The order that the preferences ask for, then the base table's primary key, which keeps row
numbers stable. -/
def orderTerms (s : Sheet) (columns : List SheetColumn) (primaryKey : List Text) :
    Except Error (List OrderTerm) := do
  let sorted ← (columns.filter fun c => (s.preference c.qualified).sortOn).mapM fun c =>
    OrderTerm.read c.qualified (s.preference c.qualified).ascending
  let keys ← primaryKey.mapM fun name => OrderTerm.read (s.path.base.column name) true
  return sorted ++ keys

/-- The selection that a page is read by, without its columns. -/
def window (s : Sheet) (columns : List SheetColumn) (primaryKey : List Text) :
    Except Error Select := do
  let filters ← s.filterClauses columns
  let order ← s.orderTerms columns primaryKey
  return { s.path.select with filters, order }

/-! ## Formulas -/

/-- The sheet with one formula evaluated again. A formula that fails leaves its cell absent; an empty
one leaves it as it is. -/
def recomputeCell (s : Sheet) (connection : Option Dialect) (i row : Nat) : Action Sheet := do
  let some column := s.extras[i]? | return s
  let some cell := column.cells[row]? | return s
  if cell.formula = [] then return s
  let value ← match ← attempt (s.evaluate connection cell.formula) with
    | .ok evaluated => pure evaluated.value
    | .error _ => pure none
  return s.setExtra i { column with cells := column.cells.set row { cell with value } }

/-- The places of all extra cells, column by column and downwards in each. -/
def extraPlaces (s : Sheet) : List (Nat × Nat) :=
  s.extras.zipIdx.flatMap fun (c, i) => (List.range c.cells.length).map fun row => (i, row)

/-- The sheet with every formula evaluated again, from left to right and downwards, each on what the
ones before it left. -/
def recompute (s : Sheet) (connection : Option Dialect) : Action Sheet :=
  s.extraPlaces.foldlM (fun s (i, row) => s.recomputeCell connection i row) s

/-! ## Pages -/

/-- The sheet with a page, and its extra columns at least as high as the page. -/
def setPage (s : Sheet) (page : Page) : Sheet :=
  { s with
    page := some page
    extras := s.extras.map fun c => { c with cells := padTo page.rows.length {} c.cells } }

/-- The sheet with `limit` rows loaded from `offset` on and every formula evaluated again. -/
def loadRows (s : Sheet) (dialect : Dialect) (limit offset : Nat) : CatalogAction Sheet := do
  let columns ← s.layout
  let primaryKey ← Catalog.primaryKey s.path.base
  let window ← s.window columns primaryKey
  let projection ← columns.mapM fun c =>
    (Projection.read c.qualified (some "text") none : Except Error Projection)
  let sql ← window.renderPage projection
  let rows ← Action.query sql (.page limit offset)
  (s.setPage ⟨columns, window, rows, offset⟩).recompute (some dialect)

/-- The sheet with the page at its offset loaded again. -/
def reload (s : Sheet) (dialect : Dialect) : CatalogAction Sheet :=
  s.loadRows dialect s.settings.pageSize s.offset

end Sheet

end JoinSheet
