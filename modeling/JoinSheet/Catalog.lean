import JoinSheet.Database.Dialogue

/-!
# The catalog

The catalog knows which tables there are. The columns and the foreign keys of a table are asked for
when they are first needed and kept from then on, also when the action that needed them fails later.

## Main definitions

* `TableName.read` — the table that a qualified name denotes.
* `Catalog` — the known tables and what has been loaded of them.
* `CatalogAction` — an action that may add to what is loaded.
* `Catalog.columns`, `Catalog.primaryKey`, `Catalog.foreignKeys` — what the catalog tells.
-/

namespace JoinSheet

/-- The table that a qualified name denotes: what precedes the first point is the schema. -/
def TableName.read (t : Text) : Except Error TableName :=
  match t.cut? '.' with
  | some (schema, table) =>
    if schema ≠ [] ∧ table ≠ [] then .ok ⟨schema, table⟩
    else .error (.resolve (.unqualifiedTable t))
  | none => .error (.resolve (.unqualifiedTable t))

/-- Foreign keys by the number of their constraint. -/
abbrev ForeignKeys := Std.ExtTreeMap ConstraintId ForeignKey

/-- What has been loaded of a table. -/
structure TableEntry where
  columns : Option (List Column) := none
  foreignKeys : Option ForeignKeys := none

/-- The known tables with what has been loaded of them. -/
structure Catalog where
  entries : Std.ExtTreeMap TableName TableEntry := ∅

/-- An action that may add to what the catalog has loaded. -/
abbrev CatalogAction := ExceptT Error (StateT Catalog Dialogue)

instance : MonadLift Action CatalogAction where
  monadLift action := ExceptT.mk (StateT.lift action.run)

instance : MonadLift (Except Error) CatalogAction where
  monadLift e := ExceptT.mk (pure e)

namespace Catalog

/-- The catalog of these tables, with nothing loaded of them. -/
def ofTables (tables : List TableName) : Catalog :=
  ⟨tables.foldl (fun entries t => entries.insert t {}) ∅⟩

/-- The catalog of the tables that the database lists. -/
def load : Action Catalog := do
  let tables ← Action.ask .listTables
  return ofTables tables

/-- The known tables in order. -/
def tables (c : Catalog) : List TableName := c.entries.keys

/-- Whether a table is known. -/
def contains (c : Catalog) (t : TableName) : Bool := c.entries.contains t

/-- The known table with a qualified name. -/
def lookup (c : Catalog) (qualified : Text) : Except Error TableName := do
  let table ← TableName.read qualified
  if c.contains table then return table
  else throw (.resolve (.unknownTable qualified))

/-- What has been loaded of a table. -/
def entry (t : TableName) : CatalogAction TableEntry := do
  match (← get).entries[t]? with
  | some entry => return entry
  | none => throw (.resolve (.unknownTable t.toText))

/-- Keep what has been loaded of a table. -/
def store (t : TableName) (entry : TableEntry) : CatalogAction Unit :=
  modify fun c => ⟨c.entries.insert t entry⟩

/-- The columns of a table in declared order. -/
def columns (t : TableName) : CatalogAction (List Column) := do
  let known ← entry t
  match known.columns with
  | some columns => return columns
  | none =>
    let columns ← Action.ask (.loadColumns t)
    store t { known with columns := some columns }
    return columns

/-- The names of a table's primary key columns in declared order. -/
def primaryKey (t : TableName) : CatalogAction (List Text) := do
  return ((← columns t).filter Column.primaryKey).map Column.name

/-- Refuse a key with an end that is not a known table. -/
def checkEnds (c : Catalog) (key : ForeignKey) : Except Error Unit :=
  match [key.source, key.target].find? fun t => !c.contains t with
  | some t => .error (.internal (.unknownEndpoint key t))
  | none => .ok ()

/-- The keys with a table at either end. Both ends of each must be known tables. Of two keys with one
number the later one counts. -/
def foreignKeys (t : TableName) : CatalogAction ForeignKeys := do
  let known ← entry t
  match known.foreignKeys with
  | some keys => return keys
  | none =>
    let loaded : List (ConstraintId × ForeignKey) ← Action.ask (.loadForeignKeys t)
    let c ← get
    loaded.forM fun (_, key) => c.checkEnds key
    let keys : ForeignKeys := loaded.foldl (fun keys (id, key) => keys.insert id key) ∅
    store t { known with foreignKeys := some keys }
    return keys

/-- The key with a number, if it has the table at one end. -/
def foreignKey? (t : TableName) (id : ConstraintId) : CatalogAction (Option ForeignKey) := do
  return (← foreignKeys t)[id]?

end Catalog

end JoinSheet
