import JoinSheet.Sql.Select

/-!
# Drafts of selections

A draft is a selection in the words of a user. It becomes a part of a selection fragment by fragment:
columns, then conditions, then the order. The first fragment that is refused is the failure.

## Main definitions

* `ColumnDraft`, `ConditionDraft`, `SelectDraft` — the words.
* `SelectDraft.addTo` — a selection with the fragments of a draft.
-/

namespace JoinSheet

/-- A column, the type it is cast to and its new name. -/
structure ColumnDraft where
  column : Text
  cast : Option Text := none
  label : Option Text := none
  deriving DecidableEq, Repr

namespace ColumnDraft

/-- The projection of a column draft. -/
def read (d : ColumnDraft) : Except Error Projection := Projection.read d.column d.cast d.label

end ColumnDraft

/-- A condition as a filter on an operand, or as two operands and an operator. -/
inductive ConditionDraft where
  | filter (left text : Text)
  | compare (left operator right : Text)
  deriving DecidableEq, Repr

namespace ConditionDraft

/-- The condition of a draft. -/
def read : ConditionDraft → Except Error Clause
  | filter left text => Clause.ofFilter left text
  | compare left operator right => Clause.read left operator right

end ConditionDraft

/-- The fragments of a selection in the words of a user. -/
structure SelectDraft where
  columns : List ColumnDraft := []
  filters : List ConditionDraft := []
  /-- Columns, each with whether its order ascends. -/
  order : List (Text × Bool) := []
  paginate : Bool := false
  deriving DecidableEq, Repr

namespace SelectDraft

/-- A selection with the fragments of a draft after its own. -/
def addTo (d : SelectDraft) (s : Select) : Except Error Select := do
  let columns ← d.columns.mapM ColumnDraft.read
  let filters ← d.filters.mapM ConditionDraft.read
  let order ← d.order.mapM fun (column, ascending) => OrderTerm.read column ascending
  return { s with
    columns := s.columns ++ columns
    filters := s.filters ++ filters
    order := s.order ++ order
    paginate := s.paginate || d.paginate }

end SelectDraft

end JoinSheet
