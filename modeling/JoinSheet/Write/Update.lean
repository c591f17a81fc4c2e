import JoinSheet.Write.Insert

/-!
# Updating rows

One row can be changed in each of several tables in one transaction. A row is found by its primary
key; only values that differ from the key's are written, and an empty text is written as NULL.

## Main definitions

* `Change` — a statement that changes one row, with its parameters.
* `Change.ofRow?` — the change of one row, if anything changes.
* `updateRows` — change rows of several tables.
-/

namespace JoinSheet

/-- A statement that changes one row, with its parameters. -/
structure Change where
  sql : Text
  params : Record

namespace Change

/-- The key that finds a row: all of its values are present. -/
def key? (keys : TableRows) (t : TableName) : Option Record :=
  keys[t]?.filter fun key => !key.isEmpty && key.toList.all fun entry => entry.2.isSome

/-- A value as it is written: an empty text has no value. -/
def written (v : Value) : Value := v.bind Value.ofInput

/-- The columns whose values differ from the key's, as they are written. -/
def columns (key row : Record) : Record :=
  (row.filter fun name v => key[name]? ≠ some v).map fun _ v => written v

/-- The change of a row, if any of its values differ from the key's. -/
def ofRow? (keys : TableRows) (t : TableName) (row : Record) : Except Error (Option Change) :=
  match key? keys t with
  | none => .error (.write (.noKeyValues t))
  | some key =>
    let set := columns key row
    if set.isEmpty then .ok none
    else do
      let sql ← Sql.update t set key
      return some ⟨sql, set.insertMany key.toList⟩

end Change

/-- Change one row of each table. The result is the number of rows that changed. -/
def updateRows (values keys : Records) : Action Nat := do
  let keys ← Action.ofExcept keys.byTable
  let rows ← Action.ofExcept values.byTable
  let changes ← Action.ofExcept (rows.toList.mapM fun (t, row) => Change.ofRow? keys t row)
  Action.inTransaction (changes.reduceOption.foldlM (fun changed change => do
    let affected ← Action.execute change.sql (.named change.params)
    return changed + affected) 0)

end JoinSheet
