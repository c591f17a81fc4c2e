import JoinSheet.Database.Request

/-!
# Rows of catalog queries

A database describes its tables in rows of text. A field that has to be there and is not, a flag that
is neither `YES` nor `NO`, and a number that is none are faults of the catalog.

## Main definitions

* `Row.toTable`, `Row.toColumn` — what a single row describes.
* `ForeignKey.ofRows` — the foreign keys that rows of column pairs describe.
-/

namespace JoinSheet

namespace Row

/-- The field at a place, which has to have a value. -/
def field (row : Row) (i : Nat) : Except Error Text :=
  match row[i]?.join with
  | some t => .ok t
  | none => .error (.internal (.missingField i))

/-- The field at a place, which is `YES` or `NO`. -/
def flag (row : Row) (i : Nat) : Except Error Bool := do
  let t ← row.field i
  if t = "YES" then return true
  else if t = "NO" then return false
  else throw (.internal (.unexpectedFlag t))

/-- The least integer of 64 bits. -/
def minInteger : Int := -9223372036854775808

/-- The largest integer of 64 bits. -/
def maxInteger : Int := 9223372036854775807

/-- The field at a place, which is an integer of 64 bits. -/
def integer (row : Row) (i : Nat) : Except Error Int := do
  let t ← row.field i
  match t.toInt? with
  | some n =>
    if minInteger ≤ n ∧ n ≤ maxInteger then return n else throw (.internal (.expectedInteger t))
  | none => throw (.internal (.expectedInteger t))

/-- The table with the schema at a place and the name after it. -/
def tableAt (row : Row) (i : Nat) : Except Error TableName := do
  let schema ← row.field i
  let table ← row.field (i + 1)
  return ⟨schema, table⟩

/-- A table: its schema and its name. -/
def toTable (row : Row) : Except Error TableName := row.tableAt 0

/-- A column: its name, whether it is nullable, its type, whether it belongs to the primary key, and
its position. -/
def toColumn (row : Row) : Except Error Column := do
  let name ← row.field 0
  let nullable ← row.flag 1
  let primaryKey ← row.flag 3
  let position ← row.integer 4
  return { name, nullable, dataType := row[2]?.join.getD [], primaryKey, position }

end Row

namespace ForeignKey

/-- The keys after one more row: the number of a constraint, the source table and a column of it, the
target table and a column of it, which may be missing. Rows in a row with one number are one key. -/
def addRow (keys : List (ConstraintId × ForeignKey)) (row : Row) :
    Except Error (List (ConstraintId × ForeignKey)) := do
  let id ← row.integer 0
  let sourceColumn ← row.field 3
  let targetColumn := row[6]?.join
  match keys.getLast? with
  | some (last, key) =>
    if last = id then
      let key := { key with
        sourceColumns := key.sourceColumns ++ [sourceColumn]
        targetColumns := key.targetColumns ++ targetColumn.toList }
      return keys.dropLast ++ [(id, key)]
    else start id sourceColumn targetColumn
  | none => start id sourceColumn targetColumn
where
  /-- The keys with a new one that starts with a row. -/
  start (id : ConstraintId) (sourceColumn : Text) (targetColumn : Option Text) :
      Except Error (List (ConstraintId × ForeignKey)) := do
    let source ← row.tableAt 1
    let target ← row.tableAt 4
    return keys ++ [(id, ⟨source, target, [sourceColumn], targetColumn.toList⟩)]

/-- The keys that rows of column pairs describe, in the order of the rows. -/
def ofRows (rows : List Row) : Except Error (List (ConstraintId × ForeignKey)) :=
  rows.foldlM addRow []

end ForeignKey

end JoinSheet
