import JoinSheet.Evaluation.Reduce
import JoinSheet.Pattern.Notation

/-!
# Extra columns

Adding, renaming and removing the sheet's own columns, and writing formulas into them. An operation
either succeeds with a new sheet or fails, so a failure changes nothing.

## Main definitions

* `Pattern.matcher` — the engine that patterns are matched with on sheets.
* `Sheet.evaluate` — what a cell's text evaluates to.
* `Sheet.addColumn`, `Sheet.renameColumn`, `Sheet.deleteColumn` — changes of the columns.
* `Sheet.setCell` — one cell written.
* `Sheet.fillDown` — a cell and all cells below it written, with references moved along.
-/

namespace JoinSheet

/-- Patterns are read and matched by the engine of this library. -/
instance Pattern.matcher : Matcher := ⟨Pattern.search?⟩

/-- A list made at least `n` long by appending a default. -/
def padTo {α : Type} (n : Nat) (default : α) (l : List α) : List α :=
  l ++ List.replicate (n - l.length) default

@[simp] theorem length_padTo {α : Type} (n : Nat) (d : α) (l : List α) :
    (padTo n d l).length = max n l.length := by
  simp only [padTo, List.length_append, List.length_replicate]; omega

namespace ExtraColumn

/-- The column with a cell at `row`, made longer if it ends above. -/
def setCell (c : ExtraColumn) (row : Nat) (cell : FormulaCell) : ExtraColumn :=
  { c with cells := (padTo (row + 1) {} c.cells).set row cell }

/-- The column with cells from `row` on, and nothing below them. -/
def replaceFrom (c : ExtraColumn) (row : Nat) (cells : List FormulaCell) : ExtraColumn :=
  { c with cells := padTo row {} (c.cells.take row) ++ cells }

end ExtraColumn

namespace Sheet

/-! ## Evaluation -/

/-- What tokens evaluate to on a sheet, as a cell that shows `formula`. -/
def evaluateTokens (s : Sheet) (connection : Option Dialect) (formula : Text)
    (tokens : List Token) : Action FormulaCell := do
  let value ← Scope.evaluate ⟨s, connection⟩ tokens
  return ⟨value.toCell, formula⟩

/-- What a cell's text evaluates to on a sheet. -/
def evaluate (s : Sheet) (connection : Option Dialect) (formula : Text) : Action FormulaCell := do
  s.evaluateTokens connection formula (← s.scan formula)

/-! ## Columns -/

/-- The extra column at a place. -/
def extraAt (s : Sheet) (i : Nat) : Except Error ExtraColumn :=
  match s.extras[i]? with
  | some c => .ok c
  | none => .error (.resolve (.noColumnAt i))

/-- Refuse a name that is empty or taken by an extra column. -/
def checkUnused (s : Sheet) (name : Text) : Except Error Unit :=
  if name = [] then .error (.resolve .emptyColumnName)
  else if s.extras.any (·.name == name) then .error (.resolve (.columnExists name))
  else .ok ()

/-- The sheet with a new column at the end, as high as the loaded page and the settings ask for.
Without a name the column gets the default one for its place. -/
def addColumn (s : Sheet) (name : Option Text) : Except Error Sheet := do
  let name := name.getD (defaultColumnName s.extras.length)
  s.checkUnused name
  let height := max s.settings.extraRows s.rows.length
  return { s with extras := s.extras ++ [⟨name, List.replicate height {}⟩] }

/-- The sheet with the extra column at a place replaced. -/
def setExtra (s : Sheet) (i : Nat) (c : ExtraColumn) : Sheet := { s with extras := s.extras.set i c }

/-- The sheet with a column renamed. -/
def renameColumn (s : Sheet) (i : Nat) (name : Text) : Except Error Sheet := do
  let column ← s.extraAt i
  if column.name = name then return s
  s.checkUnused name
  return s.setExtra i { column with name }

/-- The sheet without a column, and the column. -/
def deleteColumn (s : Sheet) (i : Nat) : Except Error (Sheet × ExtraColumn) := do
  let column ← s.extraAt i
  return ({ s with extras := s.extras.eraseIdx i }, column)

/-! ## Cells -/

/-- The sheet with a formula at a row of an extra column, and the cell that was written. -/
def setCell (s : Sheet) (connection : Option Dialect) (i row : Nat) (formula : Text) :
    Action (Sheet × FormulaCell) := do
  let column ← s.extraAt i
  let cell ← s.evaluate connection formula
  return (s.setExtra i (column.setCell row cell), cell)

/-- The result of an action, or its failure. -/
def attempt {α : Type} (action : Action α) : Action (Except Error α) := ExceptT.lift action.run

/-- A formula moved down by `distance` rows, evaluated. Below the origin a formula that fails leaves
its cell absent; at the origin, and where the formula cannot be moved, filling fails. -/
def fillCell (s : Sheet) (connection : Option Dialect) (row : Nat) (tokens : List Token)
    (distance : Nat) : Action FormulaCell := do
  let place : Text := "row " ++ Text.ofNat (row + distance + 1)
  let moved ← ((Formula.shift distance tokens).mapError (Error.within place) : Except Error (List Token))
  let text := Token.render s.settings.marker moved
  match ← attempt (s.evaluateTokens connection text moved) with
  | .ok cell => return cell
  | .error e =>
    if distance = 0 then throw (.within place e)
    return ⟨none, text⟩

/-- The sheet with a formula at a row of an extra column and, moved along, in every row below it, and
the number of cells written. -/
def fillDown (s : Sheet) (connection : Option Dialect) (i row : Nat) (formula : Text) :
    Action (Sheet × Nat) := do
  let column ← s.extraAt i
  let tokens ← s.scan formula
  let count := max column.cells.length (row + 1) - row
  let cells ← (List.range count).mapM (s.fillCell connection row tokens)
  return (s.setExtra i (column.replaceFrom row cells), count)

end Sheet

end JoinSheet
