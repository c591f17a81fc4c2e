import JoinSheet.Error

/-!
# References

A reference names cells of one column: one cell, as in `A1`, or a run of cells, as in `A1:A5`,
`A:A` and `A3:A`. The column is whatever precedes the digits of the row, so qualified names pass
through as they are.

## Main definitions

* `Reference` — a cell or a span; a span without a bound is open at that end.
* `Reference.read` — the reference that a text spells.
* `Reference.toText` — the text of a reference.
* `Reference.shift` — the reference that lies some rows further down.
-/

namespace JoinSheet

/-- The last row that a reference can name. -/
def maxRow : Nat := 4294967295

/-- One cell of a column, or a run of its cells. Rows count from 1. -/
inductive Reference where
  | cell (column : Text) (row : Nat)
  | span (column : Text) (first last : Option Nat)
  deriving DecidableEq, Repr

namespace Reference

/-- The column part and the row of one side of a reference. -/
def readSide (t : Text) : Except Error (Text × Option Nat) :=
  let column := t.dropTrailing Char.isDigit
  let digits := t.trailing Char.isDigit
  if column = [] then .error (.parse (.missingColumn t))
  else if digits = [] then .ok (column, none)
  else
    let row := Nat.ofDigitChars 10 digits 0
    if 1 ≤ row ∧ row ≤ maxRow then .ok (column, some row) else .error (.parse (.invalidRow t))

/-- Whether two bounds stand in the wrong order. An open bound never does. -/
def reversed : Option Nat → Option Nat → Bool
  | some first, some last => last < first
  | _, _ => false

/-- The reference that a text spells. -/
def read (t : Text) : Except Error Reference :=
  match t.cut? ':' with
  | none => do
    match ← readSide t with
    | (column, some row) => return .cell column row
    | (_, none) => throw (.parse (.invalidRow t))
  | some (start, stop) => do
    let (startColumn, first) ← readSide start
    let (stopColumn, last) ← readSide stop
    if startColumn ≠ stopColumn then throw (.parse (.mixedColumns t))
    if reversed first last then throw (.parse (.reversedRange t))
    return .span startColumn first last

/-- The column that a reference names. -/
def column : Reference → Text
  | cell column _ => column
  | span column _ _ => column

/-- The first row that a reference covers. -/
def firstRow : Reference → Nat
  | cell _ row => row
  | span _ first _ => first.getD 1

/-- The last row that a reference covers, `limit` for a span that is open at its end. -/
def lastRow (limit : Nat) : Reference → Nat
  | cell _ row => row
  | span _ _ last => last.getD limit

/-- Whether a reference names a single cell. -/
def isCell : Reference → Bool
  | cell .. => true
  | span .. => false

/-- The text of a bound, empty for an open one. -/
def boundText : Option Nat → Text
  | some row => Text.ofNat row
  | none => []

/-- The text of a reference. -/
def toText : Reference → Text
  | cell column row => column ++ Text.ofNat row
  | span column first last => column ++ boundText first ++ ':' :: column ++ boundText last

/-- The row `offset` rows below `row`, if the sheet has it. -/
def shiftRow? (offset : Int) (row : Nat) : Option Nat :=
  let moved := row + offset
  if 1 ≤ moved ∧ moved ≤ maxRow then some moved.toNat else none

/-- A row of the reference `whole` moved down by `offset` rows. -/
def shiftRow (whole : Reference) (offset : Int) (row : Nat) : Except Error Nat :=
  match shiftRow? offset row with
  | some moved => .ok moved
  | none => .error (.eval (.leavesSheet row offset whole.toText))

/-- The reference `offset` rows further down. Open bounds stay open. -/
def shift (offset : Int) : Reference → Except Error Reference
  | whole@(cell column row) => do return .cell column (← shiftRow whole offset row)
  | whole@(span column first last) => do
    let first ← first.mapM (shiftRow whole offset)
    let last ← last.mapM (shiftRow whole offset)
    return .span column first last

end Reference

end JoinSheet
