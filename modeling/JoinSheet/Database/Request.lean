import JoinSheet.Error
import JoinSheet.Sql.Params

/-!
# Requests to a database

Everything the engine asks of a database is a request, and every request has a type of reply.

## Main definitions

* `Request` — what can be asked.
* `Request.Reply` — what a successful answer holds.
* `Outcome` — an answer, successful or not.
-/

namespace JoinSheet

/-- A row of a result. Every column is read back as text. -/
abbrev Row := List Value

/-- What can be asked of a database. -/
inductive Request where
  /-- The tables of every visible schema. -/
  | listTables
  /-- The columns of a table in declared order. -/
  | loadColumns (table : TableName)
  /-- The foreign keys with the table at either end. -/
  | loadForeignKeys (table : TableName)
  /-- The definition of the aggregate that multiplies. -/
  | installAggregates
  /-- The rows that a statement yields. -/
  | query (sql : Text) (params : Params)
  /-- The number of rows that a statement affects. -/
  | execute (sql : Text) (params : Params)
  | begin
  | commit
  | rollback
  deriving DecidableEq

namespace Request

/-- What a successful answer to a request holds. -/
def Reply : Request → Type
  | listTables => List TableName
  | loadColumns _ => List Column
  | loadForeignKeys _ => List (ConstraintId × ForeignKey)
  | query .. => List Row
  | execute .. => Nat
  | installAggregates | begin | commit | rollback => Unit

/-- Whether a request runs a statement. -/
def isStatement : Request → Bool
  | query .. | execute .. => true
  | _ => false

end Request

/-- An answer to a request. -/
abbrev Outcome (r : Request) := Except Error r.Reply

end JoinSheet
