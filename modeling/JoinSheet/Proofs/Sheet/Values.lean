import JoinSheet.Proofs.Database.Outcome
import JoinSheet.Proofs.Evaluation.Dependence
import JoinSheet.Proofs.Sheet.Fill
import JoinSheet.Proofs.Sheet.Tables

/-!
# Values of formulas

Evaluating the formulas of a sheet again changes what their cells show, and nothing else. What is
left of a sheet without these values stays the same: the tables and the page, the names and heights
of the extra columns, the formulas, and the cells without one.

## Main definitions

* `Sheet.valueToken` — what a formula evaluates to.
* `Sheet.cellAt` — the cell at a place, if there is one.
* `Sheet.setValue` — the sheet with another value in a cell.
* `Sheet.unevaluated` — the sheet without the values of its formulas.

## Main statements

* `Sheet.yields_recompute_unevaluated` — evaluating again changes nothing but values.
-/

namespace JoinSheet

/-! ## Cells -/

/-- The cell without its value, unless it holds no formula. -/
def FormulaCell.unevaluated (c : FormulaCell) : FormulaCell :=
  if c.formula = [] then c else { c with value := none }

@[simp] theorem FormulaCell.formula_unevaluated (c : FormulaCell) :
    c.unevaluated.formula = c.formula := by
  unfold unevaluated
  split <;> rfl

theorem FormulaCell.unevaluated_setValue {c : FormulaCell} (h : c.formula ≠ []) (v : Cell) :
    ({ c with value := v } : FormulaCell).unevaluated = c.unevaluated := by
  simp [unevaluated, h]

/-- The column without the values of its formulas. -/
def ExtraColumn.unevaluated (c : ExtraColumn) : ExtraColumn :=
  { c with cells := c.cells.map FormulaCell.unevaluated }

namespace Sheet

/-! ## What formulas evaluate to -/

/-- The token that a formula evaluates to. -/
def valueToken (s : Sheet) (connection : Option Dialect) (formula : Text) : Action Token := do
  Scope.evaluate ⟨s, connection⟩ (← s.scan formula)

/-- A cell shows the token that its formula evaluates to. -/
theorem evaluate_eq (s : Sheet) (connection : Option Dialect) (formula : Text) :
    s.evaluate connection formula = (do
      let value ← s.valueToken connection formula
      return ⟨value.toCell, formula⟩) := by
  simp only [evaluate, evaluateTokens, valueToken, bind_assoc]

/-- Over a connection, a formula only asks queries. Without one it asks nothing. -/
theorem asks_valueToken (s s₀ : Sheet) (connection : Option Dialect) (formula : Text) :
    (s.valueToken connection formula).Asks (Scope.Queries ⟨s₀, connection⟩) := by
  refine Action.asks_bind (Action.asks_liftM _) fun tokens => ?_
  exact (Scope.asks_evaluate ⟨s, connection⟩ tokens).mono fun _ pushed => pushed.queries

/-! ## Places -/

variable {s s' : Sheet} {connection : Option Dialect} {i row j k : Nat} {v : Cell}
  {cell : FormulaCell}

/-- The cell at a row of an extra column, if the column is that high. -/
def cellAt (s : Sheet) (i row : Nat) : Option FormulaCell :=
  s.extras[i]?.bind fun c => c.cells[row]?

theorem shown_eq (s : Sheet) (i row : Nat) : s.shown i row = (s.cellAt i row).bind FormulaCell.value :=
  rfl

theorem cellAt_eq_some : s.cellAt i row = some cell ↔
    ∃ column, s.extras[i]? = some column ∧ column.cells[row]? = some cell :=
  Option.bind_eq_some_iff

/-- The sheet with another value in a cell. -/
def setValue (s : Sheet) (i row : Nat) (v : Cell) : Sheet :=
  { s with extras := s.extras.modify i fun c =>
      { c with cells := c.cells.modify row fun cell => { cell with value := v } } }

theorem setValue_eq_setExtra {column : ExtraColumn} (there : s.extras[i]? = some column)
    (here : column.cells[row]? = some cell) : s.setValue i row v =
      s.setExtra i { column with cells := column.cells.set row { cell with value := v } } := by
  simp [setValue, setExtra, List.modify_eq_set_getElem?, there, here]

/-- The value that a cell has already changes nothing. -/
theorem setValue_self (h : s.cellAt i row = some cell) : s.setValue i row cell.value = s := by
  obtain ⟨column, there, here⟩ := cellAt_eq_some.1 h
  obtain ⟨within, rfl⟩ := List.getElem?_eq_some_iff.1 here
  rw [setValue_eq_setExtra there here, List.set_getElem_self, setExtra_self there]

theorem cellAt_setValue (s : Sheet) (i row : Nat) (v : Cell) (j k : Nat) :
    (s.setValue i row v).cellAt j k =
      if (j, k) = (i, row) then (s.cellAt i row).map fun cell => { cell with value := v }
      else s.cellAt j k := by
  unfold cellAt setValue
  by_cases own : j = i
  · subst own
    by_cases same : k = row
    · subst same
      cases there : s.extras[j]? <;> simp [there]
    · cases there : s.extras[j]? <;> simp [there, same, Ne.symm same]
  · simp [own, Ne.symm own]

/-! ## What is left without the values of formulas -/

/-- The sheet without the values of its formulas. -/
def unevaluated (s : Sheet) : Sheet := { s with extras := s.extras.map ExtraColumn.unevaluated }

theorem cellAt_unevaluated (s : Sheet) (i row : Nat) :
    s.unevaluated.cellAt i row = (s.cellAt i row).map FormulaCell.unevaluated := by
  unfold cellAt unevaluated
  cases there : s.extras[i]? <;> simp [there, ExtraColumn.unevaluated]

theorem unevaluated_setValue (h : s.cellAt i row = some cell) (formula : cell.formula ≠ [])
    (v : Cell) : (s.setValue i row v).unevaluated = s.unevaluated := by
  obtain ⟨column, there, here⟩ := cellAt_eq_some.1 h
  obtain ⟨within, rfl⟩ := List.getElem?_eq_some_iff.1 here
  obtain ⟨inside, rfl⟩ := List.getElem?_eq_some_iff.1 there
  rw [setValue_eq_setExtra there here]
  have same : ({ s.extras[i] with
      cells := s.extras[i].cells.set row { s.extras[i].cells[row] with value := v } } :
        ExtraColumn).unevaluated = s.extras[i].unevaluated := by
    rw [ExtraColumn.unevaluated, List.map_set, FormulaCell.unevaluated_setValue formula,
      ← List.map_set, List.set_getElem_self]
    rfl
  rw [unevaluated, setExtra, List.map_set, same, ← List.map_set, List.set_getElem_self]
  rfl

section Same

variable (h : s'.unevaluated = s.unevaluated)

include h

theorem sameTables_of_unevaluated : SameTables s s' := by
  have path : s'.unevaluated.path = s.unevaluated.path := congrArg Sheet.path h
  have page : s'.unevaluated.page = s.unevaluated.page := congrArg Sheet.page h
  exact ⟨path, page⟩

theorem scan_of_unevaluated (formula : Text) : s'.scan formula = s.scan formula := by
  have same : s'.unevaluated.scan formula = s.unevaluated.scan formula := by rw [h]
  exact same

theorem names_of_unevaluated :
    s'.extras.map ExtraColumn.name = s.extras.map ExtraColumn.name := by
  have names (s : Sheet) :
      s.unevaluated.extras.map ExtraColumn.name = s.extras.map ExtraColumn.name := by
    simp [unevaluated, ExtraColumn.unevaluated, Function.comp_def]
  rw [← names s', ← names s, h]

theorem resolveColumn_of_unevaluated (name : Text) : s'.resolveColumn name = s.resolveColumn name :=
  resolveColumn_congr (sameTables_of_unevaluated h).1 (sameTables_of_unevaluated h).2
    (names_of_unevaluated h) name

theorem formula_of_unevaluated (i row : Nat) :
    (s'.cellAt i row).map FormulaCell.formula = (s.cellAt i row).map FormulaCell.formula := by
  have same := congrArg (fun s => (s.cellAt i row).map FormulaCell.formula) h
  simpa [cellAt_unevaluated, Option.map_map, Function.comp_def] using same

theorem extraPlaces_of_unevaluated : s'.extraPlaces = s.extraPlaces := by
  have places (s : Sheet) : s.unevaluated.extraPlaces = s.extraPlaces := by
    simp [extraPlaces, unevaluated, List.zipIdx_map, List.flatMap_map, ExtraColumn.unevaluated]
  rw [← places s', ← places s, h]

end Same

/-! ## Evaluating again -/

/-- A cell that is evaluated again changes its value, if it holds a formula. -/
theorem yields_recomputeCell_unevaluated (s : Sheet) (connection : Option Dialect) (i row : Nat) :
    (s.recomputeCell connection i row).Yields fun s' => s'.unevaluated = s.unevaluated := by
  unfold recomputeCell
  split
  next column there =>
    split
    next cell here =>
      split
      · exact Action.yields_pure rfl
      next formula =>
        have kept (v : Cell) := unevaluated_setValue (cellAt_eq_some.2 ⟨column, there, here⟩) formula v
        simp only [setValue_eq_setExtra there here] at kept
        refine Action.yields_bind fun outcome => ?_
        split
        · exact Action.yields_bind fun v => Action.yields_pure (kept v)
        · exact Action.yields_bind fun v => Action.yields_pure (kept v)
    · exact Action.yields_pure rfl
  · exact Action.yields_pure rfl

/-- Evaluating all formulas again changes nothing but their values. -/
theorem yields_recompute_unevaluated (s : Sheet) (connection : Option Dialect) :
    (s.recompute connection).Yields fun s' => s'.unevaluated = s.unevaluated := by
  refine Action.yields_foldlM rfl fun s' place same => ?_
  exact (yields_recomputeCell_unevaluated s' connection place.1 place.2).mono fun _ kept =>
    kept.trans same

end Sheet

end JoinSheet
