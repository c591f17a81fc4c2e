import JoinSheet.Number.Reading
import JoinSheet.Sql.Comparison

/-!
# Criteria

A criterion such as `<= 3` selects cells. Without an operator it selects the cells that are equal to
its operand. Numbers are compared as numbers, and everything else as text.

## Main definitions

* `CellCriterion.read` — the criterion that a text spells.
* `CellCriterion.holds` — whether a cell meets a criterion.
-/

namespace JoinSheet

/-- The number that a text spells, with blanks around it. -/
def Number.readTrimmed? (t : Text) : Option Float := Number.read? t.trim

/-- A comparison with an operand. -/
structure CellCriterion where
  comparison : Comparison
  operand : Text
  deriving DecidableEq, Repr

namespace CellCriterion

/-- The criterion that a text spells. The operand may not look like a further operator. -/
def read (t : Text) : Except Error CellCriterion :=
  let t := t.trim
  let (comparison, operand) := (Comparison.split? t).getD (.eq, t)
  let operand := operand.trim
  if operand.head?.any fun c => c = '<' || c = '>' || c = '=' then
    .error (.eval (.unsupportedCriterion t))
  else .ok ⟨comparison, operand⟩

/-- Whether the operand is a number. -/
def isNumeric (c : CellCriterion) : Bool := (Number.readTrimmed? c.operand).isSome

/-- Whether a cell meets a criterion. A cell that is not a number never meets a numeric one, unless
the criterion is a pattern. -/
def holds (c : CellCriterion) (value : Text) : Bool :=
  if c.comparison = .like then c.comparison.holdsText value c.operand
  else match Number.readTrimmed? c.operand, Number.readTrimmed? value with
    | some right, some left => c.comparison.holdsNumber left right
    | some _, none => false
    | none, _ => c.comparison.holdsText value c.operand

end CellCriterion

end JoinSheet
