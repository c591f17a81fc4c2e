import JoinSheet.Formula.Scan
import JoinSheet.JoinPath

/-!
# Sheets

A sheet shows the tables of a join path and columns of its own. Of the tables it holds one page of
rows at a time; its own columns hold formulas and what they evaluated to.

## Main definitions

* `Settings` — what a sheet is configured with.
* `Preference` — how a database column is shown.
* `Page` — the rows that are loaded, with their columns and the selection they come from.
* `ExtraColumn` — a column of the sheet's own.
* `Sheet` — all of it. A sheet has either a whole page or none.
* `defaultColumnName` — the names A to Z, AA, AB, and so on.
-/

namespace JoinSheet

/-- What a sheet is configured with. -/
structure Settings where
  /-- The character that cell text starts with if it is a formula. -/
  marker : Char := Formula.defaultMarker
  /-- How many cells a new column has at least. -/
  extraRows : Nat := 100
  /-- How many rows are loaded when the page is loaded again. -/
  pageSize : Nat := 100
  deriving DecidableEq, Repr

/-- How a database column is shown. -/
structure Preference where
  hide : Bool := false
  editable : Bool := false
  /-- The place among the columns of its table; without one it is the declared position. -/
  index : Option Int := none
  sortOn : Bool := false
  ascending : Bool := false
  /-- A comparison and an operand, such as `>= 3`. -/
  filter : Option Text := none
  deriving DecidableEq, Repr

/-- A visible column of a joined table. -/
structure SheetColumn where
  table : TableName
  column : Column
  deriving DecidableEq, Repr

/-- The column's name with its schema and table. -/
def SheetColumn.qualified (c : SheetColumn) : Text := c.table.column c.column.name

/-- The loaded rows. `window` is the selection they come from, without its columns. -/
structure Page where
  columns : List SheetColumn
  window : Select
  rows : List (List Cell)
  offset : Nat
  deriving DecidableEq

/-- A formula and what it evaluated to. -/
structure FormulaCell where
  value : Cell := none
  formula : Text := []
  deriving DecidableEq, Repr

/-- A column of the sheet's own. -/
structure ExtraColumn where
  name : Text
  cells : List FormulaCell
  deriving DecidableEq, Repr

/-- The tables of a join path with the loaded page of their rows, and columns of the sheet's own. -/
structure Sheet where
  settings : Settings
  path : JoinPath
  preferences : Std.ExtTreeMap Text Preference := ∅
  page : Option Page := none
  extras : List ExtraColumn := []

/-- Letters that count from A to Z, then AA to ZZ, and so on. -/
def defaultColumnName (index : Nat) : Text :=
  let letter := Char.ofNat ('A'.toNat + index % 26)
  if _h : index < 26 then [letter] else defaultColumnName (index / 26 - 1) ++ [letter]
termination_by index
decreasing_by omega

namespace Sheet

/-- A sheet of one table with nothing loaded. -/
def ofTable (base : TableName) (settings : Settings) : Sheet := { settings, path := { base } }

/-- The visible columns of the loaded page. -/
def columns (s : Sheet) : List SheetColumn := s.page.elim [] Page.columns

/-- The loaded rows. -/
def rows (s : Sheet) : List (List Cell) := s.page.elim [] Page.rows

/-- Where the loaded page starts. -/
def offset (s : Sheet) : Nat := s.page.elim 0 Page.offset

/-- The preference for a column by its qualified name. -/
def preference (s : Sheet) (qualified : Text) : Preference :=
  s.preferences[qualified]?.getD {}

/-- The sheet with a preference, which the next load heeds. -/
def setPreference (s : Sheet) (qualified : Text) (p : Preference) : Sheet :=
  { s with preferences := s.preferences.insert qualified p }

/-- The tokens of a cell's text. -/
def scan (s : Sheet) (formula : Text) : Except Error (List Token) :=
  Formula.scan s.settings.marker formula

end Sheet

end JoinSheet
