import JoinSheet.Evaluation.Criterion
import JoinSheet.Evaluation.Function
import JoinSheet.Evaluation.Operand
import JoinSheet.Formula.Grouping
import JoinSheet.Sql.Aggregate

/-!
# Calls

What the functions compute. A span of a database column is aggregated by the database, over the rows
of the loaded page's selection that the span covers; a span of an extra column is folded here, cells
that show nothing being left out. Any other argument is an expression. A function sees of an argument
only what it may ask of it, so that the functions do not depend on how expressions are evaluated.

## Main definitions

* `Argument` — what a function may ask of an argument.
* `Scope.pushDown` — an aggregate computed by the database.
* `Scope.call` — the result of a call.
* `Part`, `Argument.ofPart` — a token sequence shorter than some length, and the argument that it is.
-/

namespace JoinSheet

/-! ## Database ranges -/

/-- The number that the database returned, if it returned a value. -/
def readAnswer : Value → Except Error (Option Float)
  | none => .ok none
  | some t =>
    match Number.readTrimmed? t with
    | some x => .ok (some x)
    | none => .error (.eval (.nonNumericAnswer t))

/-- How many rows a range covers, and how many rows of the selection precede them if the loaded page
starts at `offset`. -/
def windowBounds (range : Reference) (offset : Nat) : Nat × Nat :=
  (range.lastRow maxRow - range.firstRow + 1, min (offset + (range.firstRow - 1)) maxRow)

/-- The loaded page. -/
def Scope.page (scope : Scope) : Except Error Page :=
  match scope.sheet.page with
  | some page => .ok page
  | none => .error (.resolve (.nothingLoaded scope.sheet.path.base))

/-- Aggregates over the rows that a range covers, computed by the database. The columns that the
statement reads are `projection`; a criterion comes with its operand. -/
def Scope.pushDown (scope : Scope) (function : Text) (range : Reference)
    (projection : List Projection) (aggregates : List Aggregate)
    (criterion : Option (Criterion × Text)) : Action (List (Option Float)) := do
  let page ← scope.page
  let window ← page.window.renderPage projection
  let (limit, offset) := windowBounds range page.offset
  let some dialect := scope.connection | throw (.resolve .noConnection)
  let sql ← Aggregate.statement window aggregates (criterion.map Prod.fst) dialect
  let bound := [Text.ofNat limit, Text.ofNat offset] ++ (criterion.map Prod.snd).toList
  match ← Action.query sql (.positional (bound.map some)) with
  | [] => throw (.internal (.noAggregateRow function))
  | row :: _ => row.mapM fun v => (readAnswer v : Except Error (Option Float))

/-- The aggregated column of a statement. -/
def valueProjection (column : SheetColumn) (cast : Option Text) : Except Error Projection :=
  Projection.read column.qualified cast (some Aggregate.valueName)

/-! ## Arguments -/

/-- What a function may ask of an argument. Nothing is evaluated before it is asked for. -/
structure Argument where
  /-- The reference that the argument consists of, if it is a single one. -/
  range? : Option (Except Error Reference)
  /-- Its value as an expression. -/
  value : Unit → Action Token
  /-- Whether it holds as a condition. -/
  holds : Unit → Action Bool

/-- What an argument of a set function contributes. -/
inductive Contribution where
  /-- The rows of a database column that a span covers. -/
  | database (range : Reference) (column : SheetColumn)
  /-- Numbers known here. -/
  | numbers (values : List Float)

/-- The numbers that cells show, for a function that computes with them. `column` is how the formula
names the column. -/
def cellNumbers (function column : Text) (cells : List (Nat × Text)) : Except Error (List Float) :=
  cells.mapM fun (row, t) =>
    match Number.readTrimmed? t with
    | some x => .ok x
    | none => .error (.eval (.nonNumericCell function t column (row + 1)))

/-- The number of an argument that is an expression, or nothing if its value is absent. -/
def Argument.scalar (argument : Argument) (function : Text) : Action (List Float) := do
  let value ← argument.value ()
  match value.toCell with
  | none => return []
  | some _ => return [← numeric function value]

/-- What an argument of a set function contributes. -/
def Scope.contribution (scope : Scope) (function : Text) (argument : Argument) :
    Action Contribution := do
  match argument.range? with
  | none => return .numbers (← argument.scalar function)
  | some read =>
    match ← (read : Except Error Reference) with
    | .cell .. => return .numbers (← argument.scalar function)
    | range@(.span column ..) =>
      match ← (scope.sheet.resolveColumn column : Except Error Target) with
      | .database _ c => return .database range c
      | .extra i =>
        let cells := (scope.sheet.extras[i]?.map fun c => c.populated range).getD []
        return .numbers (← cellNumbers function column cells)

/-! ## Set functions -/

/-- The database's aggregate for a function. -/
def Fold.aggregate : Fold → Aggregate
  | sum => .sum
  | max => .max
  | min => .min
  | product => .product

/-- One more argument of a fold. -/
def Scope.foldArgument (scope : Scope) (f : Fold) (acc : Option Float) (argument : Argument) :
    Action (Option Float) := do
  match ← scope.contribution f.toText argument with
  | .numbers values => return values.foldl f.add acc
  | .database range column =>
    let value ← valueProjection column (some "numeric")
    let answer ← scope.pushDown f.toText range [value] [f.aggregate] none
    return match answer.head?.join with
      | some x => f.add acc x
      | none => acc

/-- The result of a fold over its arguments. -/
def Scope.fold (scope : Scope) (f : Fold) (arguments : List Argument) : Action Token := do
  let acc ← arguments.foldlM (scope.foldArgument f) none
  return Token.ofNumber (acc.getD f.empty)

/-- A sum and how many numbers it adds up. -/
structure Tally where
  sum : Float := 0.0
  count : Float := 0.0

namespace Tally

/-- The tally with one more number. -/
def add (t : Tally) (x : Float) : Tally := ⟨t.sum + x, t.count + 1.0⟩

/-- The tally of what the database returned. -/
def addAnswer (t : Tally) : List (Option Float) → Tally
  | [sum, count] => ⟨t.sum + sum.getD 0.0, t.count + count.getD 0.0⟩
  | _ => t

end Tally

/-- One more argument of an average. -/
def Scope.averageArgument (scope : Scope) (tally : Tally) (argument : Argument) : Action Tally := do
  match ← scope.contribution "AVERAGE" argument with
  | .numbers values => return values.foldl Tally.add tally
  | .database range column =>
    let value ← valueProjection column (some "numeric")
    return tally.addAnswer (← scope.pushDown "AVERAGE" range [value] [.sum, .count] none)

/-- The average of the arguments. -/
def Scope.average (scope : Scope) (arguments : List Argument) : Action Token := do
  let tally ← arguments.foldlM scope.averageArgument {}
  if tally.count == 0.0 then throw (.eval .averageOfNothing)
  return Token.ofNumber (tally.sum / tally.count)

/-! ## Conditional functions -/

/-- The range that an argument of a conditional function has to be. -/
def rangeArgument (f : Conditional) (argument : Argument) : Except Error Reference :=
  match argument.range? with
  | some read => read
  | none => .error (.eval (.invalidRange f.toText))

/-- Whether two ranges cover the same rows. -/
def aligned (a b : Reference) : Bool :=
  a.firstRow = b.firstRow && a.lastRow maxRow = b.lastRow maxRow

/-- One row that is looked at: it counts if its cell meets the criterion and, unless rows are only
counted, a value stands beside it. -/
def tallyRow (f : Conditional) (criterion : CellCriterion) (values : List FormulaCell)
    (column : Text) (tally : Tally) (cell : Nat × Text) : Except Error Tally :=
  if !criterion.holds cell.2 then .ok tally
  else if f = .countIf then .ok { tally with count := tally.count + 1.0 }
  else match values[cell.1]?.bind FormulaCell.value with
    | none => .ok tally
    | some t =>
      match Number.readTrimmed? t with
      | some x => .ok (tally.add x)
      | none => .error (.eval (.nonNumericCell f.toText t column (cell.1 + 1)))

/-- The tally of what the database returned for a conditional function. -/
def conditionalAnswer (f : Conditional) : List (Option Float) → Except Error Tally
  | [count] => .ok ⟨0.0, count.getD 0.0⟩
  | [sum, count] => .ok ⟨sum.getD 0.0, count.getD 0.0⟩
  | answer => .error (.internal (.aggregateWidth f.toText answer.length))

/-- The tally of the rows that meet a criterion. -/
def Scope.tally (scope : Scope) (f : Conditional) (condition values : Reference)
    (criterion : CellCriterion) : Action Tally := do
  let conditionTarget ← scope.sheet.resolveColumn condition.column
  let valueTarget ← scope.sheet.resolveColumn values.column
  match conditionTarget, valueTarget with
  | .database _ conditionColumn, .database _ valueColumn =>
    let value ← valueProjection valueColumn (if f = .countIf then none else some "numeric")
    let cond ← Projection.read conditionColumn.qualified none (some Aggregate.conditionName)
    let aggregates := if f = .countIf then [Aggregate.rows] else [Aggregate.sum, Aggregate.count]
    let answer ← scope.pushDown f.toText condition [value, cond] aggregates
      (some (⟨criterion.comparison, criterion.isNumeric⟩, criterion.operand))
    conditionalAnswer f answer
  | .extra i, .extra j =>
    let cells := (scope.sheet.extras[i]?.map fun c => c.populated condition).getD []
    let shown := (scope.sheet.extras[j]?.map ExtraColumn.cells).getD []
    cells.foldlM (fun tally cell => tallyRow f criterion shown values.column tally cell) ({} : Tally)
  | _, _ => throw (.resolve (.mixedRanges f.toText))

/-- The result of a conditional function. -/
def Scope.conditional (scope : Scope) (f : Conditional) (arguments : List Argument) :
    Action Token := do
  let wrongCount : Error := .eval (.argumentCount f.toText)
  match arguments with
  | conditionArgument :: criterionArgument :: more =>
    if more.length + 2 > f.maxArguments then throw wrongCount
    let condition ← rangeArgument f conditionArgument
    let values ← (match more with
      | valueArgument :: _ => rangeArgument f valueArgument
      | [] => .ok condition : Except Error Reference)
    if !aligned condition values then
      throw (.resolve (.misaligned condition.toText values.toText))
    let criterion ← CellCriterion.read (← criterionArgument.value ()).textValue
    let tally ← scope.tally f condition values criterion
    match f with
    | .countIf => return Token.ofNumber tally.count
    | .sumIf => return Token.ofNumber tally.sum
    | .averageIf =>
      if tally.count == 0.0 then throw (.eval (.noMatchingRows f.toText))
      return Token.ofNumber (tally.sum / tally.count)
  | _ => throw wrongCount

/-! ## Scalar functions -/

/-- Whether a text contains a match of a pattern. -/
def Scope.regexMatch (scope : Scope) (arguments : List Argument) : Action Token := do
  match arguments with
  | [textArgument, patternArgument] =>
    let text ← textArgument.value ()
    if text.isNumeric then throw (.eval .searchedNumber)
    let pattern ← patternArgument.value ()
    if pattern.isNumeric then throw (.eval (.numericPattern pattern.text))
    match scope.matcher.search? pattern.textValue text.textValue with
    | some found => return Token.ofLogical found
    | none => throw (.eval .invalidPattern)
  | _ => throw (.eval (.argumentCount "REGEXMATCH"))

/-- Whether a comparison holds between two values. Numbers are equal to numbers and texts to texts;
the order is one of numbers. -/
def compareValues (operator : Text) (left right : Token) : Except Error Bool :=
  if operator = "=" ∨ operator = "<>" then
    let equal := match left.number, right.number with
      | some x, some y => x == y
      | none, none => left.textValue == right.textValue
      | _, _ => false
    .ok (equal == (operator == "="))
  else do
    let x ← numeric operator left
    let y ← numeric operator right
    match Comparison.read? operator with
    | some comparison => return comparison.holdsNumber x y
    | none => throw (.eval (.unsupportedComparison operator))

/-- The value of the second argument or of the third, as the first one says. The other one is not
evaluated. -/
def choose (arguments : List Argument) : Action Token := do
  match arguments with
  | [test, ifTrue, ifFalse] => if ← test.holds () then ifTrue.value () else ifFalse.value ()
  | _ => throw (.eval (.argumentCount "IF"))

/-- The result of the call of a function by its name in upper case. -/
def Scope.call (scope : Scope) (name : Text) (arguments : List Argument) : Action Token :=
  match Function.ofName? name with
  | some (.fold f) => scope.fold f arguments
  | some .average => scope.average arguments
  | some (.conditional f) => scope.conditional f arguments
  | some .regexMatch => scope.regexMatch arguments
  | some .choose => JoinSheet.choose arguments
  | none => throw (.parse (.unknownFunction name))

/-! ## Arguments by their tokens -/

/-- A token sequence shorter than `n`. -/
abbrev Part (n : Nat) := { tokens : List Token // tokens.length < n }

/-- How parts shorter than `n` are evaluated. -/
abbrev Evaluator (n : Nat) := Part n → Action Token

/-- The reference that tokens consist of, if they are a single one. -/
def loneRange? (tokens : List Token) : Option (Except Error Reference) :=
  match tokens with
  | [only] => if only.isRange then some (Reference.read only.text) else none
  | _ => none

/-- The truth value that a condition without a comparison has to have. -/
def truthValue (value : Token) : Except Error Bool :=
  match value.logical? with
  | some b => .ok b
  | none => .error (.eval (.notLogical value.text))

/-- Whether a condition holds: one comparison between two expressions, or an expression whose value
is a truth value. -/
def condition {n : Nat} (eval : Evaluator n) (tokens : Part n) : Action Bool :=
  match h : Cut.first? (fun t _ => t.isComparison) tokens.1 with
  | none => do truthValue (← eval tokens)
  | some cut =>
    have total : cut.before.length + cut.after.length + 1 = tokens.1.length := by
      rw [← Cut.whole_of_first? h, Cut.length_whole]
    if (Cut.first? (fun t _ => t.isComparison) cut.after).isSome then
      throw (.eval .severalComparisons)
    else do
      let left ← eval ⟨cut.before, by have := tokens.2; omega⟩
      let right ← eval ⟨cut.after, by have := tokens.2; omega⟩
      compareValues cut.token.text left right

/-- The argument that a part is. -/
def Argument.ofPart {n : Nat} (eval : Evaluator n) (part : Part n) : Argument where
  range? := loneRange? part.1
  value _ := eval part
  holds _ := condition eval part

end JoinSheet
