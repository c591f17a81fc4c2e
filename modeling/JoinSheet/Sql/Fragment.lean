import JoinSheet.Sql.Comparison
import JoinSheet.Sql.Constant
import JoinSheet.Sql.Identifier

/-!
# Fragments of statements

Projections, conditions and order terms are read from texts that users supply. A text that may not
enter a statement is refused when it is read, so that rendering a fragment cannot fail.

## Main definitions

* `Operand` — a side of a condition: a constant or a column.
* `Projection`, `Clause`, `OrderTerm` — the fragments, each with `read` and `render`.
* `Clause.ofFilter` — the condition that a filter such as `>= 3` puts on a column.
-/

namespace JoinSheet

/-- The types that a projection may be cast to. -/
inductive CastType where
  | text | numeric
  deriving DecidableEq, Repr

namespace CastType

/-- How a type is written. -/
def toText : CastType → Text
  | text => "text"
  | numeric => "numeric"

/-- The type that a text names. -/
def read (t : Text) : Except Error CastType :=
  if t = "text" then .ok text
  else if t = "numeric" then .ok numeric
  else .error (.unsafeSql (.castType t))

end CastType

/-- A constant, written as it is, or a column. -/
inductive Operand where
  | constant (text : Text) (isConstant : isConstant text = true)
  | column (name : Identifier)
  deriving DecidableEq

namespace Operand

/-- The operand that a text is, with blanks around it: a constant, or else a column. -/
def read (raw : Text) : Except Error Operand :=
  if h : isConstant raw.trim then .ok (constant raw.trim h)
  else (Identifier.read raw.trim).map column

/-- The form of an operand in a statement. -/
def render : Operand → Text
  | constant text _ => text
  | column name => name.render

end Operand

/-- A selected column, cast to a type and renamed where asked. -/
structure Projection where
  column : Identifier
  cast : Option CastType
  label : Option Identifier
  deriving DecidableEq

namespace Projection

/-- The new name of a column, which has no qualifier. -/
def readLabel (t : Text) : Except Error Identifier :=
  if '.' ∈ t then .error (.unsafeSql (.qualifiedAlias t)) else Identifier.read t

/-- The projection of a column with an optional type and an optional new name. -/
def read (column : Text) (cast label : Option Text) : Except Error Projection := do
  let column ← Identifier.read column
  let cast ← cast.mapM CastType.read
  let label ← label.mapM readLabel
  return ⟨column, cast, label⟩

/-- The form of a projection in a statement. -/
def render (p : Projection) : Text :=
  let value := match p.cast with
    | some type => "CAST(" ++ p.column.render ++ " AS " ++ type.toText ++ ")"
    | none => p.column.render
  match p.label with
  | some label => value ++ " AS " ++ label.render
  | none => value

end Projection

/-- A condition: a comparison of two operands. -/
structure Clause where
  left : Operand
  comparison : Comparison
  right : Operand
  deriving DecidableEq

namespace Clause

/-- The condition with the given sides and operator. -/
def read (left operator right : Text) : Except Error Clause := do
  let comparison ← Comparison.read operator
  let left ← Operand.read left
  let right ← Operand.read right
  return ⟨left, comparison, right⟩

/-- The condition that a filter, an operator followed by an operand, puts on `left`. -/
def ofFilter (left filter : Text) : Except Error Clause :=
  let filter := filter.trim
  match Comparison.split? filter with
  | none => .error (.unsafeSql (.filterWithoutComparison filter))
  | some (comparison, right) =>
    if right.trim = [] then .error (.unsafeSql (.filterWithoutOperand filter))
    else do
      let left ← Operand.read left
      let right ← Operand.read right.trim
      return ⟨left, comparison, right⟩

/-- The form of a condition in a statement. -/
def render (c : Clause) : Text :=
  c.left.render ++ ' ' :: c.comparison.toText ++ ' ' :: c.right.render

end Clause

/-- A column to order rows by. -/
structure OrderTerm where
  column : Identifier
  ascending : Bool
  deriving DecidableEq

namespace OrderTerm

/-- The order by a column. -/
def read (column : Text) (ascending : Bool) : Except Error OrderTerm :=
  (Identifier.read column).map (⟨·, ascending⟩)

/-- The form of an order term in a statement. -/
def render (o : OrderTerm) : Text :=
  o.column.render ++ if o.ascending then (" ASC" : Text) else " DESC"

end OrderTerm

end JoinSheet
