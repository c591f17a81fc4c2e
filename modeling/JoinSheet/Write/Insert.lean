import JoinSheet.Catalog
import JoinSheet.Sql.Write
import JoinSheet.Write.Order

/-!
# Inserting rows

One row can be inserted into each of several tables in one transaction. The columns of a row that
reference another row are filled with that row's key: the key that its own insert returned, or the
key of a row that exists already.

## Main definitions

* `insertRow` — insert one row and read columns of it back.
* `Records.byTable` — rows by their table rather than by the text that names it.
* `insertRows` — insert into several tables in dependency order.
-/

namespace JoinSheet

/-- Insert one row. The result holds the columns of `returning` as the database reads them back. -/
def insertRow (table : TableName) (values : Record) (returning : List Text) : Action Record := do
  let sql ← Action.ofExcept (Sql.insert table values returning)
  if returning = [] then
    let _ ← Action.execute sql (.named values)
    return ∅
  else
    match ← Action.query sql (.named values) with
    | [] => throw (.write (.noRowReturned table))
    | row :: _ => return (returning.zip row).foldl (fun back (name, v) => back.insert name v) ∅

/-- Rows by table. -/
abbrev TableRows := Std.ExtTreeMap TableName Record

/-- The rows by their table. Every name must be qualified. -/
def Records.byTable (records : Records) : Except Error TableRows :=
  records.toList.foldlM (fun rows (name, row) => do
    let table ← TableName.read name
    return rows.insert table row) ∅

/-- The columns of a row that have a value. -/
def Record.present (r : Record) : Record := r.filter fun _ v => v.isSome

/-- The columns of `row` that a key references, filled with the values that `known` has. -/
def Record.fill (row known : Record) (key : ForeignKey) : Record :=
  key.columnPairs.foldl (fun row (source, target) =>
    match known[target]? with
    | some (some v) => row.insert source (some v)
    | _ => row) row

namespace Insertion

/-- What is known of the row that a key references: what its own insert returned, or else the
reference that the caller gave. -/
def known (returned references : TableRows) (key : ForeignKey) : Record :=
  ((returned[key.target]?).or references[key.target]?).getD ∅

/-- The row that is inserted into a table. Of two keys that fill one column the later one counts. -/
def row (keys : List ForeignKey) (rows returned references : TableRows) (t : TableName) : Record :=
  (keys.filter (·.source = t)).foldl (fun row key => row.fill (known returned references key) key)
    (rows[t]?.getD ∅).present

/-- The columns that rows written later need from the row of a table, in order. -/
def returning (keys : List ForeignKey) (rows : TableRows) (t : TableName) : List Text :=
  let needed := (keys.filter fun key => key.target = t && rows.contains key.source).flatMap
    ForeignKey.targetColumns
  (needed.foldl (fun names name => names.insert name ()) (∅ : Std.ExtTreeMap Text Unit)).keys

/-- Insert the row of one table, given what the inserts before it returned. -/
def step (keys : List ForeignKey) (rows references returned : TableRows) (t : TableName) :
    Action TableRows := do
  let back ← insertRow t (row keys rows returned references t) (returning keys rows t)
  return returned.insert t back

end Insertion

/-- What an insertion into several tables did. -/
structure InsertOutcome where
  /-- The tables in the order they were written. -/
  order : List TableName
  /-- The columns that each insert returned. -/
  returned : TableRows

/-- Insert one row into each table that has a value. Any failure undoes every insert. -/
def insertRows (keys : List ForeignKey) (values references : Records) : Action InsertOutcome := do
  let rows ← Action.ofExcept values.byTable
  let rows := rows.filter fun _ row => !row.isAllNull
  if rows.isEmpty then throw (.write .allEmpty)
  let references ← Action.ofExcept references.byTable
  let order ← Action.ofExcept (dependencyOrder rows.keys keys)
  let returned ← Action.inTransaction (order.foldlM (Insertion.step keys rows references) ∅)
  return ⟨order, returned⟩

end JoinSheet
