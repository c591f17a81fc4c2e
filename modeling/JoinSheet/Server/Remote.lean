import JoinSheet.Database.Dialogue
import JoinSheet.Server.CatalogRow
import JoinSheet.Sql.Placeholder

/-!
# Remote databases

A remote database is reached by statements alone: what the engine asks about tables is asked of the
database's own catalog. Values are bound by number, and all of them travel as text.

## Main definitions

* `Wire` — a connection that carries statements.
* `Params.prepare` — a statement and its values as they are sent.
* `Remote.server` — the database at the end of a wire.
-/

namespace JoinSheet

/-- A connection that carries statements. A statement with values yields rows or a number of rows that
it affected; a plain one yields nothing. -/
structure Wire (σ : Type) where
  query : Text → List Value → σ → Except Error (List Row) × σ
  execute : Text → List Value → σ → Except Error Nat × σ
  command : Text → σ → Except Error Unit × σ

/-- A statement and its values as they are sent. -/
def Params.prepare (sql : Text) : Params → Text × List Value
  | none => (sql, [])
  | positional values => (sql, values)
  | named values => Sql.numbered sql values

namespace Remote

/-- The statement that lists the tables. -/
def listTables : Text :=
  "SELECT schemaname::text, tablename::text FROM pg_catalog.pg_tables " ++
    "WHERE schemaname NOT IN ('pg_catalog', 'information_schema') ORDER BY 1, 2"

/-- The statement that describes the columns of a table. -/
def tableColumns : Text :=
  "SELECT c.column_name::text, c.is_nullable::text, c.data_type::text, " ++
    "CASE WHEN EXISTS ( " ++
    "SELECT 1 FROM pg_catalog.pg_constraint k " ++
    "JOIN pg_catalog.pg_class t ON t.oid = k.conrelid " ++
    "JOIN pg_catalog.pg_namespace n ON n.oid = t.relnamespace " ++
    "JOIN pg_catalog.pg_attribute a ON a.attrelid = k.conrelid AND a.attnum = ANY (k.conkey) " ++
    "WHERE k.contype = 'p' AND n.nspname = c.table_schema " ++
    "AND t.relname = c.table_name AND a.attname = c.column_name " ++
    ") THEN 'YES' ELSE 'NO' END, " ++
    "c.ordinal_position::text " ++
    "FROM information_schema.columns c " ++
    "WHERE c.table_schema = $1 AND c.table_name = $2 " ++
    "ORDER BY c.ordinal_position"

/-- The statement that describes the foreign keys of a table, one column pair a row. -/
def foreignKeys : Text :=
  "SELECT c.oid::bigint::text, sn.nspname::text, sc.relname::text, sa.attname::text, " ++
    "tn.nspname::text, tc.relname::text, ta.attname::text " ++
    "FROM pg_catalog.pg_constraint c " ++
    "JOIN pg_catalog.pg_class sc ON sc.oid = c.conrelid " ++
    "JOIN pg_catalog.pg_namespace sn ON sn.oid = sc.relnamespace " ++
    "JOIN pg_catalog.pg_class tc ON tc.oid = c.confrelid " ++
    "JOIN pg_catalog.pg_namespace tn ON tn.oid = tc.relnamespace " ++
    "CROSS JOIN LATERAL unnest(c.conkey, c.confkey) WITH ORDINALITY AS k(src, tgt, ord) " ++
    "JOIN pg_catalog.pg_attribute sa ON sa.attrelid = c.conrelid AND sa.attnum = k.src " ++
    "JOIN pg_catalog.pg_attribute ta ON ta.attrelid = c.confrelid AND ta.attnum = k.tgt " ++
    "WHERE c.contype = 'f' " ++
    "AND ((sn.nspname = $1 AND sc.relname = $2) OR (tn.nspname = $1 AND tc.relname = $2)) " ++
    "ORDER BY c.oid, k.ord"

/-- The statements that define the aggregate that multiplies. -/
def installAggregates : Text :=
  "CREATE SCHEMA IF NOT EXISTS db_interface; " ++
    "CREATE OR REPLACE AGGREGATE db_interface.mul(numeric) (SFUNC = numeric_mul, STYPE = numeric);"

/-- The two values that name a table. -/
def tableValues (t : TableName) : List Value := [some t.schema, some t.table]

/-- The rows of an answer read as what they describe. -/
def read {α σ : Type} (decode : List Row → Except Error α) (answer : Except Error (List Row) × σ) :
    Except Error α × σ :=
  (answer.1.bind decode, answer.2)

/-- The database at the end of a wire. -/
def server {σ : Type} (wire : Wire σ) : Server σ
  | .listTables, s => read (·.mapM Row.toTable) (wire.query listTables [] s)
  | .loadColumns t, s => read (·.mapM Row.toColumn) (wire.query tableColumns (tableValues t) s)
  | .loadForeignKeys t, s => read ForeignKey.ofRows (wire.query foreignKeys (tableValues t) s)
  | .installAggregates, s => wire.command installAggregates s
  | .query sql params, s => wire.query (params.prepare sql).1 (params.prepare sql).2 s
  | .execute sql params, s => wire.execute (params.prepare sql).1 (params.prepare sql).2 s
  | .begin, s => wire.command "START TRANSACTION" s
  | .commit, s => wire.command "COMMIT" s
  | .rollback, s => wire.command "ROLLBACK" s

end Remote

end JoinSheet
