import JoinSheet.Sql.Identifier
import JoinSheet.Sql.Placeholder

/-!
# Writing statements

The columns that a statement writes double as the names of its placeholders, so they consist of the
letters A to Z in either case and underscores.

## Main definitions

* `Sql.writable` — the check of a column name.
* `Sql.insert` — the statement that inserts a row and reads some of its columns back.
* `Sql.update` — the statement that changes the rows with a given key.
-/

namespace JoinSheet.Sql

/-- A column that a statement may write. -/
def writable (name : Text) : Except Error Text :=
  if name ≠ [] ∧ name.all isNameChar then .ok name else .error (.unsafeSql (.columnName name))

/-- A checked column between double quotes. -/
def quoted (name : Text) : Text := Identifier.quote name

/-- The placeholder of a checked column. -/
def placeholder (name : Text) : Text := ':' :: name

/-- A checked column and its placeholder as an equation. -/
def assignment (name : Text) : Text := quoted name ++ " = " ++ placeholder name

/-- The statement that inserts the columns of `values` and reads `returning` back as text. -/
def insert (table : TableName) (values : Record) (returning : List Text) : Except Error Text :=
  if values.isEmpty then .error (.unsafeSql (.nothingToInsert table))
  else do
    let names ← values.keys.mapM writable
    let target ← Identifier.ofTable table
    let returned ← returning.mapM writable
    let back : Text :=
      if returned = [] then []
      else " RETURNING " ++
        Text.joined ", " (returned.map fun name => "CAST(" ++ quoted name ++ " AS text)")
    return "INSERT INTO " ++ target.render ++ " (" ++ Text.joined ", " (names.map quoted) ++
      ") VALUES (" ++ Text.joined ", " (names.map placeholder) ++ ")" ++ back

/-- The statement that sets the columns of `set` where the columns of `keys` have their values. The
two share one set of placeholders, so they may not overlap. -/
def update (table : TableName) (set keys : Record) : Except Error Text :=
  if set.isEmpty then .error (.unsafeSql (.nothingToUpdate table))
  else if keys.isEmpty then .error (.unsafeSql (.noKey table))
  else match set.keys.find? keys.contains with
    | some shared => .error (.unsafeSql (.keyUpdated shared))
    | none => do
      let target ← Identifier.ofTable table
      let changed ← set.keys.mapM writable
      let compared ← keys.keys.mapM writable
      return "UPDATE " ++ target.render ++ " SET " ++ Text.joined ", " (changed.map assignment) ++
        " WHERE " ++ Text.joined " AND " (compared.map assignment)

end JoinSheet.Sql
