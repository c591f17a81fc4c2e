import JoinSheet.Sheet.Resolve
import JoinSheet.Sql.Aggregate

/-!
# Operands

The value of a single token, and the arithmetic on such values. An absent cell counts as zero
wherever a number is needed.

## Main definitions

* `Matcher` — an engine that looks for matches of patterns.
* `Scope` — the sheet that a formula is evaluated on, the database connection, if any, and a matcher.
* `Scope.operand` — the value of a token.
* `numeric` — the number that a value stands for.
* `applySign`, `applyOperator` — signs and operators on values.
-/

namespace JoinSheet

/-- An engine that looks for a match of a pattern in a text. Evaluation depends on no particular
one. -/
class Matcher where
  /-- Whether there is a match. A text that is no pattern has no answer. -/
  search? : (pattern text : Text) → Option Bool

/-- Where a formula is evaluated: on a sheet, with a connection to a database of some dialect or
without one, and with a matcher. -/
structure Scope where
  sheet : Sheet
  connection : Option Dialect := none
  [matcher : Matcher]

/-- The value of a token. A reference to a cell has the value of the cell; a span has none. -/
def Scope.operand (scope : Scope) (t : Token) : Except Error Token :=
  if !t.isValue then .error (.eval (.notAnOperand t.text))
  else if !t.isRange then .ok t
  else do
    match ← Reference.read t.text with
    | .cell column row => return Token.ofCell (← scope.sheet.resolveCell column row)
    | span => throw (.eval (.rangeAsValue span.toText))

/-- The number that a value stands for where `context` needs one. -/
def numeric (context : Text) (t : Token) : Except Error Float :=
  if t.role = .empty then .ok 0.0
  else match t.number with
    | some x => .ok x
    | none => .error (.eval (.notNumeric context t.textValue))

/-- A value with a sign in front. -/
def applySign (sign value : Token) : Except Error Token :=
  if sign.text = "+" then .ok value
  else if sign.text = "-" then (numeric "negate" value).map fun x => Token.ofNumber (-x)
  else .error (.eval (.unknownSign sign.text))

/-- The operators of arithmetic. -/
inductive Arithmetic where
  | times | dividedBy | plus | minus
  deriving DecidableEq, Repr

namespace Arithmetic

/-- How an operator is written. -/
def toText : Arithmetic → Text
  | times => "*"
  | dividedBy => "/"
  | plus => "+"
  | minus => "-"

/-- The operator that a token is. -/
def ofToken? (t : Token) : Option Arithmetic :=
  if t.kind = .infixOp then [times, dividedBy, plus, minus].find? fun op => t.text == op.toText else none

/-- Whether an operator binds more tightly than a sum. -/
def isFactor : Arithmetic → Bool
  | times | dividedBy => true
  | plus | minus => false

/-- The result of an operator. -/
def apply (op : Arithmetic) (x y : Float) : Except Error Float :=
  match op with
  | times => .ok (x * y)
  | dividedBy => if y == 0.0 then .error (.eval .divisionByZero) else .ok (x / y)
  | plus => .ok (x + y)
  | minus => .ok (x - y)

end Arithmetic

/-- An operator on the values of two tokens, the left one first. -/
def Scope.combine (scope : Scope) (op : Arithmetic) (left right : Token) : Except Error Token := do
  let x ← numeric op.toText (← scope.operand left)
  let y ← numeric op.toText (← scope.operand right)
  return Token.ofNumber (← op.apply x y)

end JoinSheet
