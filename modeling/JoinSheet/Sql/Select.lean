import JoinSheet.Sql.Fragment

/-!
# Selections

A selection reads columns of a table and of the tables joined to it. Its fragments are safe already;
table names are checked when it is rendered.

## Main definitions

* `Join` — a table and the column pairs that tie it to the tables before it.
* `Select` — a selection.
* `Select.render` — its statement.
-/

namespace JoinSheet

/-- A table joined on the equality of qualified columns. -/
structure Join where
  table : TableName
  pairs : List (Text × Text)
  deriving DecidableEq, Repr

namespace Join

/-- The join of `joined` through a foreign key, whichever end of the key it is. -/
def along (key : ForeignKey) (joined : TableName) : Join where
  table := joined
  pairs := key.columnPairs.map fun (source, target) =>
    (key.source.column source, key.target.column target)

/-- One equality of a join. -/
def renderPair (pair : Text × Text) : Except Error Text := do
  let left ← Identifier.read pair.1
  let right ← Identifier.read pair.2
  return left.render ++ " = " ++ right.render

/-- The form of a join in a statement. -/
def render (j : Join) : Except Error Text :=
  if j.pairs = [] then .error (.unsafeSql (.emptyJoin j.table))
  else do
    let conditions ← j.pairs.mapM renderPair
    let table ← Identifier.ofTable j.table
    return " LEFT JOIN " ++ table.render ++ " ON " ++ Text.joined " AND " conditions

end Join

/-- Columns of a table and its joins, filtered and ordered, all rows of them or one page. -/
structure Select where
  base : TableName
  joins : List Join := []
  columns : List Projection := []
  filters : List Clause := []
  order : List OrderTerm := []
  paginate : Bool := false
  deriving DecidableEq

namespace Select

/-- The fragments of one part of a statement after its keyword, or nothing if there are none. -/
def renderPart (keyword separator : Text) (fragments : List Text) : Text :=
  if fragments = [] then [] else keyword ++ Text.joined separator fragments

/-- All of a selection but its columns. -/
def renderSource (s : Select) : Except Error Text := do
  let base ← Identifier.ofTable s.base
  let joins ← s.joins.mapM Join.render
  return " FROM " ++ base.render ++ joins.flatten ++
    renderPart " WHERE " " AND " (s.filters.map Clause.render) ++
    renderPart " ORDER BY " ", " (s.order.map OrderTerm.render) ++
    if s.paginate then (" LIMIT $1 OFFSET $2" : Text) else []

/-- The statement of a selection. -/
def render (s : Select) : Except Error Text :=
  if s.columns = [] then .error (.unsafeSql (.nothingSelected s.base))
  else do
    let source ← s.renderSource
    return "SELECT " ++ Text.joined ", " (s.columns.map Projection.render) ++ source

/-- The statement text of one page of a selection that reads other columns. -/
def renderPage (s : Select) (columns : List Projection) : Except Error Text :=
  { s with columns, paginate := true }.render

end Select

end JoinSheet
