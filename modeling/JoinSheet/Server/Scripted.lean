import JoinSheet.Server.Remote

/-!
# Scripted databases

A scripted database answers statements from a queue and writes down what it is asked. It shows what
the engine asks of a database, in which order, and what it makes of the answers.

## Main definitions

* `Script` — the answers to come and the record of what was asked.
* `Scripted.server` — a database with known tables whose statements are answered from a script.
* `Scripted.wire` — a wire whose other end answers from a script.
-/

namespace JoinSheet

/-- An answer to a statement. -/
inductive ScriptAnswer where
  | rows (rows : List Row)
  | affected (n : Nat)
  | failure (message : Text)
  deriving DecidableEq

/-- The answers to come, and what has been asked so far. -/
structure Script (ρ : Type) where
  answers : List ScriptAnswer := []
  asked : List ρ := []

namespace Script

variable {ρ : Type}

/-- The script with one more entry of its record. -/
def record (s : Script ρ) (entry : ρ) : Script ρ := { s with asked := s.asked ++ [entry] }

/-- The next answer, if one is left, and the script after it. -/
def next (s : Script ρ) : Option ScriptAnswer × Script ρ :=
  (s.answers.head?, { s with answers := s.answers.tail })

/-- The script with other answers to come and nothing asked yet. -/
def restart (answers : List ScriptAnswer) : Script ρ := { answers }

end Script

namespace ScriptAnswer

/-- The rows that an answer holds. -/
def toRows : Option ScriptAnswer → Except Error (List Row)
  | some (rows found) => .ok found
  | some (failure message) => .error (.database message)
  | _ => .ok []

/-- The number of rows that an answer tells were affected. -/
def toCount : Option ScriptAnswer → Except Error Nat
  | some (affected n) => .ok n
  | some (failure message) => .error (.database message)
  | _ => .ok 0

end ScriptAnswer

/-- The name of a request other than a statement. -/
def Request.stage? : Request → Option Text
  | .listTables => some "list_tables"
  | .loadColumns _ => some "load_columns"
  | .loadForeignKeys _ => some "load_foreign_keys"
  | .installAggregates => some "install_aggregates"
  | .begin => some "begin"
  | .commit => some "commit"
  | .rollback => some "rollback"
  | .query .. | .execute .. => none

/-- A database with known tables. -/
structure Scripted where
  tables : List TableName
  columns : Std.ExtTreeMap Text (List Column)
  keys : List (ConstraintId × ForeignKey)
  /-- Keys told for a table instead of those that touch it. -/
  keysFor : Std.ExtTreeMap Text (List (ConstraintId × ForeignKey))
  /-- The stage that fails. -/
  failing : Option Text

namespace Scripted

/-- The answer to a request, where requests of the failing stage fail. -/
def unlessFailing {α σ : Type} (db : Scripted) (r : Request) (answer : Except Error α × σ) :
    Except Error α × σ :=
  match r.stage? with
  | some stage =>
    if db.failing = some stage then (.error (.database (stage ++ " failed")), answer.2) else answer
  | none => answer

/-- The keys told for a table. -/
def keysOf (db : Scripted) (t : TableName) : List (ConstraintId × ForeignKey) :=
  (db.keysFor[t.toText]?).getD (db.keys.filter fun (_, key) => key.touches t)

/-- A request answered, after it has been written down. -/
def answer (db : Scripted) (s : Script Request) : (r : Request) → Outcome r × Script Request
  | .listTables => (.ok db.tables, s)
  | .loadColumns t => (.ok ((db.columns[t.toText]?).getD []), s)
  | .loadForeignKeys t => (.ok (db.keysOf t), s)
  | .query .. => (ScriptAnswer.toRows s.next.1, s.next.2)
  | .execute .. => (ScriptAnswer.toCount s.next.1, s.next.2)
  | .installAggregates | .begin | .commit | .rollback => (.ok (), s)

/-- A database with known tables whose statements are answered from a script. -/
def server (db : Scripted) : Server (Script Request) := fun r s =>
  db.unlessFailing r (db.answer (s.record r) r)

/-! ## Over a wire -/

/-- What is sent over a wire. -/
inductive Sent where
  | statement (sql : Text) (values : List Value)
  | command (sql : Text)
  deriving DecidableEq

/-- The failure of a statement, as the other end of a wire reports it. -/
def wireFault : Error := .database "db error"

/-- An answer as a wire carries it: every failure is reported alike, and every row has as many fields
as the first one. -/
def carried : Option ScriptAnswer → Option ScriptAnswer
  | some (.failure _) => some (.failure "db error")
  | some (.rows rows) =>
    let width := (rows.head?.map List.length).getD 0
    some (.rows (rows.map fun row => (row ++ List.replicate width none).take width))
  | other => other

/-- A wire whose other end answers from a script. Commands that start with the word `failing` fail. -/
def wire (failing : Option Text) : Wire (Script Sent) where
  query sql values s :=
    let (answer, s) := (s.record (.statement sql values)).next
    (ScriptAnswer.toRows (carried answer), s)
  execute sql values s :=
    let (answer, s) := (s.record (.statement sql values)).next
    (ScriptAnswer.toCount (carried answer), s)
  command sql s :=
    let s := s.record (.command sql)
    if some (Text.lower (sql.takeWhile (· ≠ ' '))) = failing then (.error wireFault, s)
    else (.ok (), s)

end Scripted

end JoinSheet
