import JoinSheet.Sql.Comparison

/-!
# Aggregates

An aggregate runs over the rows of a window: a selection of one page that reads the column `val` and,
where rows have to meet a criterion, the column `cond`. The operand of the criterion is the third
parameter, after the two that bound the page. The statements of different kinds of databases differ in
one name only: that of the aggregate that multiplies.

## Main definitions

* `Dialect` — the kinds of databases.
* `Aggregate`, `Criterion` — what is computed, and from which rows.
* `Aggregate.statement` — the statement over a window.
-/

namespace JoinSheet

/-- The databases whose statements differ. -/
inductive Dialect where
  | sqlite | postgres
  deriving DecidableEq, Repr

namespace Dialect

/-- The name of a dialect. -/
def toText : Dialect → Text
  | sqlite => "sqlite"
  | postgres => "postgres"

/-- The aggregate that multiplies, which the database does not bring along. -/
def product : Dialect → Text
  | sqlite => "mul"
  | postgres => "\"db_interface\".\"mul\""

end Dialect

/-- What can be computed over the rows of a window. -/
inductive Aggregate where
  | sum | max | min | product
  /-- How many rows have a value. -/
  | count
  /-- How many rows there are. -/
  | rows
  deriving DecidableEq, Repr

/-- A condition on the column `cond`, compared as numbers or as text. -/
structure Criterion where
  comparison : Comparison
  numeric : Bool
  deriving DecidableEq, Repr

namespace Aggregate

/-- The new name of the column that is aggregated. -/
def valueName : Text := "val"

/-- The new name of the column that a criterion looks at. -/
def conditionName : Text := "cond"

/-- The aggregated column. -/
def valueColumn : Text := "\"sq\".\"" ++ valueName ++ "\""

/-- The expression that an aggregate is computed by. -/
def expression (dialect : Dialect) : Aggregate → Text
  | sum => "SUM(" ++ valueColumn ++ ")"
  | max => "MAX(" ++ valueColumn ++ ")"
  | min => "MIN(" ++ valueColumn ++ ")"
  | product => dialect.product ++ "(" ++ valueColumn ++ ")"
  | count => "COUNT(" ++ valueColumn ++ ")"
  | rows => "COUNT(*)"

/-- The expression with its result as text. -/
def render (dialect : Dialect) (a : Aggregate) : Text :=
  "CAST(" ++ a.expression dialect ++ " AS text)"

end Aggregate

/-- The form of a criterion in a statement. Patterns are matched as text. -/
def Criterion.render (c : Criterion) : Text :=
  let type : Text := if c.numeric && c.comparison ≠ .like then "numeric" else "text"
  "CAST(\"sq\".\"" ++ Aggregate.conditionName ++ "\" AS " ++ type ++ ") " ++ c.comparison.toText ++
    " CAST($3 AS " ++ type ++ ")"

/-- The statement that computes aggregates over the rows of a window that meet a criterion. -/
def Aggregate.statement (window : Text) (aggregates : List Aggregate)
    (criterion : Option Criterion) (dialect : Dialect) : Except Error Text :=
  if aggregates = [] then .error (.unsafeSql .noAggregate)
  else
    let filter : Text := match criterion with
      | some c => " WHERE " ++ c.render
      | none => []
    .ok ("SELECT " ++ Text.joined ", " (aggregates.map (Aggregate.render dialect)) ++ " FROM (" ++
      window ++ ") AS \"sq\"" ++ filter)

end JoinSheet
