import JoinSheet.Sheet.Basic

/-!
# Resolving names

A plain column name denotes the first visible column of that name in the loaded page, or else the
extra column of that name. A name with schema and table only ever denotes a database column.

## Main definitions

* `Target` — what a column name denotes.
* `Sheet.resolveColumn`, `Sheet.resolveCell` — the column and the cell behind a name.
* `ExtraColumn.populated` — the cells of a range that show something.
-/

namespace JoinSheet

/-- What a column name denotes: a column of the loaded page or of the sheet's own, by its place. -/
inductive Target where
  | database (index : Nat) (column : SheetColumn)
  | extra (index : Nat)
  deriving DecidableEq, Repr

/-- The first element that satisfies a predicate, with its place. -/
def firstWithIndex? {α : Type} (p : α → Bool) (l : List α) : Option (Nat × α) :=
  (l.findIdx? p).bind fun i => l[i]?.map fun a => (i, a)

namespace Sheet

/-- What a plain column name denotes. -/
def resolvePlain (s : Sheet) (name : Text) : Except Error Target :=
  match firstWithIndex? (fun c => c.column.name == name) s.columns with
  | some (i, column) => .ok (.database i column)
  | none =>
    match s.extras.findIdx? fun c => c.name == name with
    | some i => .ok (.extra i)
    | none => .error (.resolve (.unknownColumn name))

/-- What a column name with schema and table denotes. -/
def resolveQualified (s : Sheet) (table : TableName) (name : Text) : Except Error Target :=
  if table ∉ s.path.tables then .error (.resolve (.unknownTable table.toText))
  else match firstWithIndex? (fun c => c.table == table && c.column.name == name) s.columns with
    | some (i, column) => .ok (.database i column)
    | none => .error (.resolve (.unknownColumnOf name table.toText))

/-- What a column name denotes. -/
def resolveColumn (s : Sheet) (name : Text) : Except Error Target :=
  match name.split '.' with
  | [plain] => s.resolvePlain plain
  | [schema, table, column] => s.resolveQualified ⟨schema, table⟩ column
  | _ => .error (.resolve (.malformedColumn name))

/-- What the cell of a column in a row shows, rows counting from 1. Database rows must be loaded; an
extra column shows nothing beyond its end.

A database answers a selection with rows that have a field for each of its columns, and the columns
of a page are those of the selection it comes from. Rows are kept as they are answered, so nothing
here rules out a shorter one: a field that it lacks is absent. -/
def resolveCell (s : Sheet) (column : Text) (row : Nat) : Except Error Cell :=
  match row with
  | 0 => .error (.parse (.invalidRow (column ++ ['0'])))
  | i + 1 => do
    match ← s.resolveColumn column with
    | .database index _ =>
      match s.rows[i]? with
      | some cells => return cells[index]?.join
      | none => throw (.resolve (.rowNotLoaded row s.rows.length))
    | .extra index => return (s.extras[index]?.bind fun c => c.cells[i]?).bind FormulaCell.value

end Sheet

/-- The cells of a range that show something, with their rows counted from 0. -/
def ExtraColumn.populated (c : ExtraColumn) (range : Reference) : List (Nat × Text) :=
  let skipped := range.firstRow - 1
  let shown := (c.cells.zipIdx.drop skipped).take (range.lastRow maxRow - skipped)
  shown.filterMap fun (cell, row) => cell.value.map fun t => (row, t)

end JoinSheet
