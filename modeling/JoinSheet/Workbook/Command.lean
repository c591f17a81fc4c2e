import JoinSheet.Sheet.Load
import JoinSheet.Sql.Draft
import JoinSheet.Write.Insert
import JoinSheet.Write.Update

/-!
# Commands

What a user can ask of a workbook: to look at the catalog and at join paths, to choose and load the
tables of the sheet, to read and change its cells, and to write rows. Every command has a type of
reply.

## Main definitions

* `Command` — what can be asked.
* `Command.Reply` — what a successful answer holds.
* `Exploration` — what can be told of a join path.
-/

namespace JoinSheet

/-- What a user can ask of a workbook. -/
inductive Command where
  | loadCatalog
  | listTables
  | contains (table : TableName)
  | lookup (qualified : Text)
  | columns (table : TableName)
  | primaryKey (table : TableName)
  | foreignKeys (table : TableName)
  | foreignKey (table : TableName) (id : ConstraintId)
  | dialect
  | installAggregates
  /-- The path along some keys and a selection from its tables, which the sheet has no part in. -/
  | explore (base : TableName) (ids : List ConstraintId) (draft : SelectDraft)
  | setTable (qualified : Text)
  | setJoin (index : Nat) (id : ConstraintId)
  | truncateJoins (n : Nat)
  | availableJoins
  | setPreference (qualified : Text) (p : Preference)
  | preference (qualified : Text)
  | loadRows (limit offset : Nat)
  | reload
  | recompute
  | evaluate (formula : Text)
  | resolveColumn (name : Text)
  | resolveCell (name : Text) (row : Nat)
  | addColumn (name : Option Text)
  | renameColumn (i : Nat) (name : Text)
  | deleteColumn (i : Nat)
  | setCell (i row : Nat) (formula : Text)
  | fillDown (i row : Nat) (formula : Text)
  | insertRow (table : TableName) (values : Record) (returning : List Text)
  /-- Rows inserted along some keys; without any, along the keys of the sheet's join path. -/
  | insertRows (keys : Option (List ForeignKey)) (values references : Records)
  | updateRows (values keys : Records)
  | query (sql : Text) (params : Params)
  | execute (sql : Text) (params : Params)

/-- A join path, the statement of a selection from its tables, and the keys that could extend it. -/
structure Exploration where
  path : JoinPath
  statement : Except Error Text
  available : List (ConstraintId × ForeignKey)

namespace Command

/-- What a successful answer to a command holds. -/
def Reply : Command → Type
  | listTables => List TableName
  | contains _ => Bool
  | lookup _ => TableName
  | columns _ => List Column
  | primaryKey _ => List Text
  | foreignKeys _ => ForeignKeys
  | foreignKey .. => Option ForeignKey
  | dialect => Dialect
  | explore .. => Exploration
  | availableJoins => List (ConstraintId × ForeignKey)
  | preference _ => Preference
  | loadRows .. | reload => Nat
  | evaluate _ | setCell .. => FormulaCell
  | resolveColumn _ => Target
  | resolveCell .. => Cell
  | addColumn _ | fillDown .. => Nat
  | deleteColumn _ => ExtraColumn
  | insertRow .. => Record
  | insertRows .. => InsertOutcome
  | updateRows .. | execute .. => Nat
  | query .. => List Row
  | loadCatalog | installAggregates | setTable _ | setJoin .. | truncateJoins _ | setPreference .. |
    recompute | renameColumn .. => Unit

end Command

end JoinSheet
