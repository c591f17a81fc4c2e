import JoinSheet.Proofs.Database.Coincidence
import JoinSheet.Proofs.Sheet.Fill
import JoinSheet.Proofs.Sheet.Loading
import JoinSheet.Proofs.Workbook.Change
import Mathlib.Data.List.Basic

/-!
# Commands in place

A command puts a whole sheet in place at its end. The same can be done step by step on the sheet as
it stands, where a step that fails undoes none of the steps before it. Both come to the same, because
nothing fails any more once the first step has been taken. So a command that fails changes nothing.

## Main definitions

* `Workbook.inPlace` — what a command does, step by step.

## Main statements

* `Workbook.inPlace_eq_perform` — the steps come to what the command comes to.
* `Workbook.sheet_eq_of_failed` — a command that fails leaves the sheet as it is.
-/

namespace JoinSheet

/-- The sheet with a page, whatever the height of its extra columns. -/
def Sheet.showPage (s : Sheet) (page : Page) : Sheet := { s with page := some page }

/-- The sheet with its extra columns at least as high as its page. -/
def Sheet.fitExtras (s : Sheet) : Sheet :=
  { s with extras := s.extras.map fun c => { c with cells := padTo s.rows.length {} c.cells } }

theorem Sheet.fitExtras_showPage (s : Sheet) (page : Page) :
    (s.showPage page).fitExtras = s.setPage page := rfl

namespace Workbook

variable {α β : Type} {w : Workbook} {connection : Option Dialect}

/-! ## Steps -/

/-- Change the sheet as it stands. -/
def modifySheet (f : Sheet → Sheet) : WorkbookAction Unit :=
  modify fun w => { w with sheet := f w.sheet }

/-- Change an extra column as it stands. -/
def modifyExtra (i : Nat) (f : ExtraColumn → ExtraColumn) : WorkbookAction Unit :=
  modifySheet fun s => { s with extras := s.extras.modify i f }

/-- Change the join path, then forget the page. -/
def changePath (path : JoinPath) : WorkbookAction Unit := do
  modifySheet fun s => { s with path }
  modifySheet fun s => { s with page := none }

/-- Evaluate a formula again and put its value into its cell. -/
def recomputeCellInPlace (connection : Option Dialect) (i row : Nat) : WorkbookAction Unit := do
  let sheet ← getSheet
  let some column := sheet.extras[i]? | return
  let some cell := column.cells[row]? | return
  if cell.formula = [] then return
  let value : Cell ← match ← Sheet.attempt (sheet.evaluate connection cell.formula) with
    | .ok evaluated => pure evaluated.value
    | .error _ => pure none
  modifyExtra i fun c => { c with cells := c.cells.modify row fun cell => { cell with value } }

/-- Evaluate all formulas again, each on what the ones before it left. -/
def recomputeInPlace (connection : Option Dialect) : WorkbookAction Unit := do
  forM (← getSheet).extraPlaces fun (i, row) => recomputeCellInPlace connection i row

/-- Load a page: put it in place, make the extra columns as high, and evaluate their formulas. -/
def loadRowsInPlace (dialect : Dialect) (limit offset : Nat) : WorkbookAction Nat := do
  let page ← onCatalog ((← getSheet).fetchPage limit offset)
  modifySheet fun s => s.showPage page
  modifySheet Sheet.fitExtras
  recomputeInPlace (some dialect)
  return (← getSheet).rows.length

/-- Load the page again where it starts. -/
def reloadInPlace (dialect : Dialect) : WorkbookAction Nat := do
  let sheet ← getSheet
  loadRowsInPlace dialect sheet.settings.pageSize sheet.offset

/-- Choose another base table: the path is changed, then the page forgotten. -/
def setTableInPlace (qualified : Text) : WorkbookAction Unit := do
  let table ← (← get).catalog.lookup qualified
  if table = (← getSheet).path.base then return
  changePath { base := table }

/-- Choose a join: the path is changed once it has been resolved. -/
def setJoinInPlace (index : Nat) (id : ConstraintId) : WorkbookAction Unit := do
  let path := (← getSheet).path
  if index > path.links.length then
    throw (.graph (.joinGap index path.links.length))
  if path.ids[index]? = some id then return
  changePath (← onCatalog (JoinPath.resolve path.base (path.ids.take index ++ [id])))

/-- Append an extra column, and tell its place. -/
def addColumnInPlace (name : Option Text) : WorkbookAction Nat := do
  let sheet ← getSheet
  let name := name.getD (defaultColumnName sheet.extras.length)
  sheet.checkUnused name
  let height := max sheet.settings.extraRows sheet.rows.length
  modifySheet fun s => { s with extras := s.extras ++ [⟨name, List.replicate height {}⟩] }
  return (← getSheet).extras.length - 1

/-- Change the name of an extra column. -/
def renameColumnInPlace (i : Nat) (name : Text) : WorkbookAction Unit := do
  let sheet ← getSheet
  let column ← sheet.extraAt i
  if column.name = name then return
  sheet.checkUnused name
  modifyExtra i fun c => { c with name }

/-- Remove an extra column, and tell what it was. -/
def deleteColumnInPlace (i : Nat) : WorkbookAction ExtraColumn := do
  let column ← (← getSheet).extraAt i
  modifySheet fun s => { s with extras := s.extras.eraseIdx i }
  return column

/-- Evaluate a formula, make the column long enough, then put the cell into it. -/
def setCellInPlace (connection : Option Dialect) (i row : Nat) (formula : Text) :
    WorkbookAction FormulaCell := do
  let sheet ← getSheet
  let _ ← sheet.extraAt i
  let cell ← sheet.evaluate connection formula
  modifyExtra i fun c => { c with cells := padTo (row + 1) {} c.cells }
  modifyExtra i fun c => { c with cells := c.cells.set row cell }
  return cell

/-- Evaluate the moved formulas, cut the column off above them, then append them. -/
def fillDownInPlace (connection : Option Dialect) (i row : Nat) (formula : Text) :
    WorkbookAction Nat := do
  let sheet ← getSheet
  let column ← sheet.extraAt i
  let tokens ← sheet.scan formula
  let count := max column.cells.length (row + 1) - row
  let cells ← ((List.range count).mapM (sheet.fillCell connection row tokens) :
    Action (List FormulaCell))
  modifyExtra i fun c => { c with cells := padTo row {} (c.cells.take row) }
  modifyExtra i fun c => { c with cells := c.cells ++ cells }
  return count

/-- What a command does, step by step on the sheet as it stands. A command that is not about the sheet
has no other steps. -/
def inPlace (connection : Option Dialect) : (c : Command) → WorkbookAction c.Reply
  | .setTable qualified => setTableInPlace qualified
  | .setJoin index id => do
    let _ ← required connection
    setJoinInPlace index id
  | .loadRows limit offset => do loadRowsInPlace (← required connection) limit offset
  | .reload => do reloadInPlace (← required connection)
  | .recompute => recomputeInPlace connection
  | .addColumn name => addColumnInPlace name
  | .renameColumn i name => renameColumnInPlace i name
  | .deleteColumn i => deleteColumnInPlace i
  | .setCell i row formula => setCellInPlace connection i row formula
  | .fillDown i row formula => fillDownInPlace connection i row formula
  | c => perform connection c

/-! ## Steps on a workbook -/

theorem run_modifySheet_bind {g : Sheet → Sheet} {f : Unit → WorkbookAction α} :
    (modifySheet g >>= f).run.run w = (f ()).run.run { w with sheet := g w.sheet } := rfl

/-! ## Formulas that are evaluated again -/

end Workbook

theorem Sheet.succeeds_recomputeCell (s : Sheet) (connection : Option Dialect) (i row : Nat) :
    (s.recomputeCell connection i row).Succeeds := by
  unfold recomputeCell
  split
  · split
    · split
      · exact Action.succeeds_pure s
      · refine (Action.succeeds_lift _).bind fun outcome => ?_
        cases outcome <;> exact Action.succeeds_pure _
    · exact Action.succeeds_pure s
  · exact Action.succeeds_pure s

/-- Evaluating all formulas again does not fail. -/
theorem Sheet.succeeds_recompute (s : Sheet) (connection : Option Dialect) :
    (s.recompute connection).Succeeds :=
  Action.succeeds_foldlM (fun _ _ => succeeds_recomputeCell _ _ _ _) _ _

namespace Workbook

theorem run_modifyExtra_bind {i : Nat} {column : ExtraColumn}
    (there : w.sheet.extras[i]? = some column) (g : ExtraColumn → ExtraColumn)
    {f : Unit → WorkbookAction α} :
    (modifyExtra i g >>= f).run.run w =
      (f ()).run.run { w with sheet := w.sheet.setExtra i (g column) } := by
  have same : w.sheet.extras.modify i g = w.sheet.extras.set i (g column) := by
    rw [List.modify_eq_set_getElem?, there]
    rfl
  rw [Sheet.setExtra, ← same]
  rfl

theorem run_modifyExtra {i : Nat} {column : ExtraColumn} (there : w.sheet.extras[i]? = some column)
    (g : ExtraColumn → ExtraColumn) :
    (modifyExtra i g).run.run w =
      .done (.ok (), { w with sheet := w.sheet.setExtra i (g column) }) := by
  rw [← bind_pure (modifyExtra i g), run_modifyExtra_bind there]
  rfl

/-- The workbook after an action that leads to a sheet. -/
def putting (w : Workbook) : Except Error Sheet → Dialogue (Except Error Unit × Workbook)
  | .ok s => .done (.ok (), { w with sheet := s })
  | .error e => .done (.error e, w)

theorem run_recomputeCellInPlace (connection : Option Dialect) (i row : Nat) (w : Workbook) :
    (recomputeCellInPlace connection i row).run.run w =
      (w.sheet.recomputeCell connection i row).run >>= putting w := by
  unfold recomputeCellInPlace Sheet.recomputeCell
  rw [run_getSheet_bind]
  cases there : w.sheet.extras[i]? with
  | none => rfl
  | some column =>
    dsimp only
    cases here : column.cells[row]? with
    | none => rfl
    | some cell =>
      dsimp only
      split
      · rfl
      · rw [run_action_bind, ExceptT.run_bind, Sheet.attempt, ExceptT.run_lift, map_eq_pure_bind,
          bind_assoc, bind_assoc, bind_assoc]
        refine bind_congr fun outcome => ?_
        have put (value : Cell) :
            (modifyExtra i fun c =>
              { c with cells := c.cells.modify row fun cell => { cell with value } }).run.run w =
              putting w (.ok (w.sheet.setExtra i
                { column with cells := column.cells.set row { cell with value } })) := by
          rw [run_modifyExtra there, List.modify_eq_set_getElem?, here]
          rfl
        cases outcome with
        | ok evaluated => exact put evaluated.value
        | error e => exact put none

theorem run_recomputeInPlace (connection : Option Dialect) (w : Workbook) :
    (recomputeInPlace connection).run.run w = (w.sheet.recompute connection).run >>= putting w := by
  unfold recomputeInPlace Sheet.recompute
  rw [run_getSheet_bind]
  generalize w.sheet.extraPlaces = places
  induction places generalizing w with
  | nil => rfl
  | cons place places ih =>
    rw [List.forM_cons, List.foldlM_cons]
    rw [ExceptT.run_bind, StateT.run_bind, run_recomputeCellInPlace]
    rw [ExceptT.run_bind, bind_assoc, bind_assoc]
    refine Dialogue.bind_congr_of_always (Dialogue.Always.mono
      (w.sheet.succeeds_recomputeCell connection place.1 place.2) ?_)
    rintro _ ⟨s, rfl⟩
    refine (ih { w with sheet := s }).trans (Dialogue.bind_congr_of_always ?_)
    have succeeds : (places.foldlM (fun (s : Sheet) (i, row) => s.recomputeCell connection i row)
        s).Succeeds := Action.succeeds_foldlM (fun _ _ => Sheet.succeeds_recomputeCell _ _ _ _) _ _
    refine Dialogue.Always.mono succeeds ?_
    rintro _ ⟨s', rfl⟩
    rfl

theorem run_recomputeInPlace_bind (connection : Option Dialect) (w : Workbook)
    {f : Unit → WorkbookAction α} :
    (recomputeInPlace connection >>= f).run.run w =
      (w.sheet.recompute connection).run >>= fun r =>
        match r with
        | .ok s => (f ()).run.run { w with sheet := s }
        | .error e => .done (.error e, w) := by
  rw [ExceptT.run_bind, StateT.run_bind, run_recomputeInPlace, bind_assoc]
  refine bind_congr fun r => ?_
  cases r <;> rfl

/-! ## Commands -/

theorem recomputeInPlace_eq (connection : Option Dialect) :
    recomputeInPlace connection = (do setSheet (← (← getSheet).recompute connection)) := by
  refine ExceptT.ext (StateT.ext fun w => ?_)
  rw [run_recomputeInPlace, run_getSheet_bind, run_action_bind]
  refine bind_congr fun r => ?_
  cases r <;> rfl

theorem loadRowsInPlace_eq (dialect : Dialect) (limit offset : Nat) :
    loadRowsInPlace dialect limit offset = (do
      putLoaded (← onCatalog ((← getSheet).loadRows dialect limit offset))) := by
  refine ExceptT.ext (StateT.ext fun w => ?_)
  unfold loadRowsInPlace
  rw [run_getSheet_bind, run_onCatalog_bind, run_getSheet_bind, run_onCatalog_bind,
    Sheet.loadRows_eq, ExceptT.run_bind, StateT.run_bind, bind_assoc]
  refine bind_congr fun r => ?_
  obtain ⟨r, c⟩ := r
  cases r with
  | error e => rfl
  | ok page =>
    dsimp only
    rw [run_modifySheet_bind, run_modifySheet_bind, run_recomputeInPlace_bind]
    dsimp only
    rw [Sheet.fitExtras_showPage]
    change _ = ((StateT.lift _ : StateT Catalog Dialogue _).run c >>= _)
    rw [StateT.run_lift, bind_assoc]
    refine Dialogue.bind_congr_of_always (Dialogue.Always.mono
      ((w.sheet.setPage page).succeeds_recompute (some dialect)) ?_)
    rintro _ ⟨s, rfl⟩
    rfl

theorem reloadInPlace_eq (dialect : Dialect) :
    reloadInPlace dialect = (do putLoaded (← onCatalog ((← getSheet).reload dialect))) := by
  refine ExceptT.ext (StateT.ext fun w => ?_)
  unfold reloadInPlace
  rw [run_getSheet_bind, loadRowsInPlace_eq, run_getSheet_bind, run_getSheet_bind, Sheet.reload]

theorem setTableInPlace_eq (qualified : Text) :
    setTableInPlace qualified = (do
      setSheet (← (← getSheet).setTable (← get).catalog qualified)) := by
  refine ExceptT.ext (StateT.ext fun w => ?_)
  change ((liftM (w.catalog.lookup qualified) : WorkbookAction _) >>= _).run.run w =
    ((liftM (w.sheet.setTable w.catalog qualified) : WorkbookAction _) >>= _).run.run w
  rw [run_liftM_bind, run_liftM_bind, Sheet.setTable]
  cases w.catalog.lookup qualified with
  | error e => rfl
  | ok table =>
    change (ite _ _ _ : WorkbookAction Unit).run.run w = (setSheet (ite _ _ _)).run.run w
    by_cases same : table = w.sheet.path.base
    · rw [if_pos same, if_pos same]
      rfl
    · rw [if_neg same, if_neg same]
      rfl

theorem setJoinInPlace_eq (index : Nat) (id : ConstraintId) :
    setJoinInPlace index id = (do
      setSheet (← onCatalog ((← getSheet).setJoin index id))) := by
  refine ExceptT.ext (StateT.ext fun w => ?_)
  unfold setJoinInPlace
  rw [run_getSheet_bind, run_getSheet_bind, run_onCatalog_bind, Sheet.setJoin]
  by_cases gap : index > w.sheet.path.links.length
  · simp only [if_pos gap]
    rfl
  · simp only [if_neg gap]
    by_cases same : w.sheet.path.ids[index]? = some id
    · simp only [if_pos same]
      rfl
    · simp only [if_neg same]
      rw [run_onCatalog_bind, ExceptT.run_bind, StateT.run_bind, bind_assoc]
      refine bind_congr fun r => ?_
      obtain ⟨r, c⟩ := r
      cases r <;> rfl

theorem addColumnInPlace_eq (name : Option Text) :
    addColumnInPlace name = (do
      let sheet ← getSheet
      setSheet (← sheet.addColumn name)
      return sheet.extras.length) := by
  refine ExceptT.ext (StateT.ext fun w => ?_)
  unfold addColumnInPlace Sheet.addColumn
  rw [run_getSheet_bind, run_getSheet_bind, run_liftM_bind, run_liftM_bind]
  dsimp only
  cases w.sheet.checkUnused (name.getD (defaultColumnName w.sheet.extras.length)) with
  | error e => rfl
  | ok _ =>
    change Dialogue.done (Except.ok (_ - 1), _) = Dialogue.done _
    simp

theorem renameColumnInPlace_eq (i : Nat) (name : Text) :
    renameColumnInPlace i name = (do setSheet (← (← getSheet).renameColumn i name)) := by
  refine ExceptT.ext (StateT.ext fun w => ?_)
  unfold renameColumnInPlace
  rw [run_getSheet_bind, run_getSheet_bind, run_liftM_bind, run_liftM_bind, Sheet.renameColumn]
  cases at' : w.sheet.extraAt i with
  | error e => rfl
  | ok column =>
    have there := Sheet.extraAt_eq_ok.1 at'
    rw [Except.ok_bind]
    dsimp only
    by_cases same : column.name = name
    · rw [if_pos same, if_pos same]
      rfl
    · rw [if_neg same, if_neg same, run_liftM_bind]
      cases w.sheet.checkUnused name with
      | error e => rfl
      | ok _ => exact run_modifyExtra there _

theorem deleteColumnInPlace_eq (i : Nat) :
    deleteColumnInPlace i = (do
      let (sheet, column) ← (← getSheet).deleteColumn i
      setSheet sheet
      return column) := by
  refine ExceptT.ext (StateT.ext fun w => ?_)
  unfold deleteColumnInPlace Sheet.deleteColumn
  rw [run_getSheet_bind, run_getSheet_bind, run_liftM_bind, run_liftM_bind]
  cases w.sheet.extraAt i <;> rfl

theorem setCellInPlace_eq (connection : Option Dialect) (i row : Nat) (formula : Text) :
    setCellInPlace connection i row formula = (do
      let (sheet, cell) ← (← getSheet).setCell connection i row formula
      setSheet sheet
      return cell) := by
  refine ExceptT.ext (StateT.ext fun w => ?_)
  unfold setCellInPlace Sheet.setCell
  rw [run_getSheet_bind, run_getSheet_bind, run_liftM_bind, run_action_bind]
  cases at' : w.sheet.extraAt i with
  | error e => rfl
  | ok column =>
    have there := Sheet.extraAt_eq_ok.1 at'
    dsimp only
    rw [run_action_bind, Action.liftM_ok_bind, ExceptT.run_bind, bind_assoc]
    refine bind_congr fun r => ?_
    cases r with
    | error e => rfl
    | ok cell =>
      dsimp only
      rw [run_modifyExtra_bind there, run_modifyExtra_bind (Sheet.getElem?_setExtra there _)]
      dsimp only
      rw [Sheet.setExtra_setExtra]
      rfl

theorem fillDownInPlace_eq (connection : Option Dialect) (i row : Nat) (formula : Text) :
    fillDownInPlace connection i row formula = (do
      let (sheet, count) ← (← getSheet).fillDown connection i row formula
      setSheet sheet
      return count) := by
  refine ExceptT.ext (StateT.ext fun w => ?_)
  unfold fillDownInPlace Sheet.fillDown
  rw [run_getSheet_bind, run_getSheet_bind, run_liftM_bind, run_action_bind]
  cases at' : w.sheet.extraAt i with
  | error e => rfl
  | ok column =>
    have there := Sheet.extraAt_eq_ok.1 at'
    dsimp only
    rw [run_liftM_bind, Action.liftM_ok_bind]
    cases w.sheet.scan formula with
    | error e => rfl
    | ok tokens =>
      dsimp only
      rw [run_action_bind, Action.liftM_ok_bind, ExceptT.run_bind, bind_assoc]
      refine bind_congr fun r => ?_
      cases r with
      | error e => rfl
      | ok cells =>
        dsimp only
        rw [run_modifyExtra_bind there, run_modifyExtra_bind (Sheet.getElem?_setExtra there _)]
        dsimp only
        rw [Sheet.setExtra_setExtra]
        rfl

/-- The steps of a command come to what the command comes to. -/
theorem inPlace_eq_perform (connection : Option Dialect) (c : Command) :
    inPlace connection c = perform connection c := by
  cases c with
  | setTable qualified => exact setTableInPlace_eq qualified
  | setJoin index id =>
    exact congrArg (liftM (required connection) >>= ·) (funext fun _ => setJoinInPlace_eq index id)
  | loadRows limit offset =>
    exact congrArg (liftM (required connection) >>= ·)
      (funext fun dialect => loadRowsInPlace_eq dialect limit offset)
  | reload =>
    exact congrArg (liftM (required connection) >>= ·)
      (funext fun dialect => reloadInPlace_eq dialect)
  | recompute => exact recomputeInPlace_eq connection
  | addColumn name => exact addColumnInPlace_eq name
  | renameColumn i name => exact renameColumnInPlace_eq i name
  | deleteColumn i => exact deleteColumnInPlace_eq i
  | setCell i row formula => exact setCellInPlace_eq connection i row formula
  | fillDown i row formula => exact fillDownInPlace_eq connection i row formula
  | _ => rfl

/-! ## Commands that fail -/

/-- A command that fails changes nothing of the sheet, with whatever database it is held. Neither do
its steps, although they change the sheet as it stands. -/
theorem sheet_eq_of_failed {σ : Type} (server : Server σ) (connection : Option Dialect) (c : Command)
    (w : Workbook) (s : σ) {e : Error} (failed : (run server connection c w s).1.1 = .error e) :
    (run server connection c w s).1.2.sheet = w.sheet ∧
      (((inPlace connection c).run.run w).run server s).1.1 = .error e ∧
      (((inPlace connection c).run.run w).run server s).1.2.sheet = w.sheet := by
  have same : (run server connection c w s).1.2.sheet = w.sheet := by
    obtain kept | ⟨⟨x, succeeded⟩, -⟩ := (turns_perform connection c w).run server s
    · exact kept
    · cases failed.symm.trans succeeded
  rw [inPlace_eq_perform]
  exact ⟨same, failed, same⟩

/-- The third row that is filled would refer to a row that no sheet has. -/
theorem sheet_eq_of_failed_fill :
    let w : Workbook := { sheet := { Sheet.ofTable ⟨"s", "t"⟩ {} with
      extras := [⟨"A", [⟨some "x", "x"⟩, {}, {}]⟩] } }
    let fill : Command := .fillDown 0 0 "=A4294967294"
    ∃ e, (run Server.absent none fill w ()).1.1 = .error e ∧
      (run Server.absent none fill w ()).1.2.sheet = w.sheet ∧
      (((inPlace none fill).run.run w).run Server.absent ()).1.2.sheet = w.sheet := by
  intro w fill
  have fails : (run Server.absent none fill w ()).1.1.isOk = false := by decide +kernel
  cases failed : (run Server.absent none fill w ()).1.1 with
  | ok n =>
    rw [failed] at fails
    cases fails
  | error e =>
    obtain ⟨same, -, same'⟩ := sheet_eq_of_failed Server.absent none fill w () failed
    exact ⟨e, rfl, same, same'⟩

end Workbook

end JoinSheet
