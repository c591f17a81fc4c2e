import JoinSheet.Proofs.Success
import JoinSheet.Sheet.Resolve
import Mathlib.Data.List.Basic

/-!
# Sheets that agree

What a formula reads of a sheet is the cells that its references cover. Two sheets with the same
page, on which the references denote extra columns that show the same in those cells, cannot be told
apart by it. It does not matter where among the others the extra columns stand.

## Main definitions

* `Reference.Covers` — the rows of a reference.
* `Sheet.shown` — what an extra column shows in a row.
* `Sheet.AgreesOn` — sheets on which some references denote alike.

## Main statements

* `Sheet.agreesOn_of_names` — where the extra columns have the same names.
* `Sheet.AgreesOn.resolveCell_eq`, `Sheet.populated_congr` — what the references read.
-/

namespace JoinSheet

/-- The row, counted from 0, is one that the reference covers. -/
def Reference.Covers (r : Reference) (row : Nat) : Prop :=
  r.firstRow ≤ row + 1 ∧ row + 1 ≤ r.lastRow maxRow

namespace Sheet

/-- What an extra column shows in a row, counted from 0. -/
def shown (s : Sheet) (i row : Nat) : Cell :=
  (s.extras[i]?.bind fun c => c.cells[row]?).bind FormulaCell.value

/-- The cells of an extra column in the rows of a reference that show something. -/
def populated (s : Sheet) (i : Nat) (r : Reference) : List (Nat × Text) :=
  (s.extras[i]?.map fun c => c.populated r).getD []

end Sheet

/-! ## Rows that show something -/

namespace ExtraColumn

/-- The cells from a row on that show something, of the next `n` rows. -/
def populatedFrom (cells : List FormulaCell) (row n : Nat) : List (Nat × Text) :=
  ((cells.zipIdx.drop row).take n).filterMap fun (cell, row) => cell.value.map fun t => (row, t)

theorem populatedFrom_succ (cells : List FormulaCell) (row n : Nat) :
    populatedFrom cells row (n + 1) =
      ((cells[row]?.bind FormulaCell.value).map fun t => (row, t)).toList ++
        populatedFrom cells (row + 1) n := by
  unfold populatedFrom
  by_cases within : row < cells.length
  · rw [List.drop_eq_getElem_cons (by simpa using within), List.take_succ_cons,
      List.filterMap_cons, List.getElem?_eq_getElem within]
    cases value : cells[row].value <;> simp [value]
  · have nothing : cells.zipIdx.drop row = [] := by simp; omega
    have later : cells.zipIdx.drop (row + 1) = [] := by simp; omega
    simp [nothing, later, List.getElem?_eq_none (Nat.le_of_not_lt within)]

theorem populated_eq_populatedFrom (c : ExtraColumn) (r : Reference) :
    c.populated r =
      populatedFrom c.cells (r.firstRow - 1) (r.lastRow maxRow - (r.firstRow - 1)) := rfl

theorem populatedFrom_congr {cells cells' : List FormulaCell} {row n : Nat}
    (h : ∀ k, row ≤ k → k < row + n →
      cells[k]?.bind FormulaCell.value = cells'[k]?.bind FormulaCell.value) :
    populatedFrom cells row n = populatedFrom cells' row n := by
  induction n generalizing row with
  | zero => rfl
  | succ n ih =>
    rw [populatedFrom_succ, populatedFrom_succ, h row (Nat.le_refl row) (by omega),
      ih fun k lower upper => h k (by omega) (by omega)]

theorem mem_populatedFrom {cells : List FormulaCell} {row n k : Nat} {t : Text}
    (h : (k, t) ∈ populatedFrom cells row n) : row ≤ k ∧ k < row + n := by
  induction n generalizing row with
  | zero => simp [populatedFrom] at h
  | succ n ih =>
    rw [populatedFrom_succ, List.mem_append, Option.mem_toList] at h
    obtain here | later := h
    · obtain ⟨_, -, same⟩ := Option.map_eq_some_iff.1 here
      cases same
      omega
    · have := ih later
      omega

end ExtraColumn

namespace Sheet

variable {s s' : Sheet} {S : Reference → Prop} {r : Reference} {i : Nat}

theorem covers_of_mem_populated {row : Nat} {t : Text} (h : (row, t) ∈ s.populated i r) :
    r.Covers row := by
  unfold populated at h
  cases column : s.extras[i]? with
  | none => simp [column] at h
  | some c =>
    rw [column, Option.map_some, Option.getD_some, ExtraColumn.populated_eq_populatedFrom] at h
    have := ExtraColumn.mem_populatedFrom h
    constructor <;> omega

/-! ## Agreement -/

/-- What a reference may denote on two sheets that agree on it: the same error or database column,
or extra columns that show the same in its rows. -/
inductive Alike (s s' : Sheet) (r : Reference) : Except Error Target → Except Error Target → Prop
  | error (e : Error) : Alike s s' r (.error e) (.error e)
  | database (i : Nat) (c : SheetColumn) : Alike s s' r (.ok (.database i c)) (.ok (.database i c))
  | extra {i i' : Nat} (shown : ∀ row, r.Covers row → s'.shown i' row = s.shown i row) :
    Alike s s' r (.ok (.extra i)) (.ok (.extra i'))

/-- The sheets have the same tables and the same page, and the references in `S` denote alike. -/
structure AgreesOn (S : Reference → Prop) (s s' : Sheet) : Prop where
  path : s'.path = s.path
  page : s'.page = s.page
  alike : ∀ r, S r → Alike s s' r (s.resolveColumn r.column) (s'.resolveColumn r.column)

/-- Every sheet agrees with itself. -/
theorem agreesOn_refl (S : Reference → Prop) (s : Sheet) : AgreesOn S s s := by
  refine ⟨rfl, rfl, fun r _ => ?_⟩
  cases s.resolveColumn r.column with
  | error e => exact .error e
  | ok target =>
    cases target with
    | database i c => exact .database i c
    | extra i => exact .extra fun _ _ => rfl

/-- Names denote the same where the extra columns have the same names. -/
theorem resolveColumn_congr (path : s'.path = s.path) (page : s'.page = s.page)
    (names : s'.extras.map ExtraColumn.name = s.extras.map ExtraColumn.name) (name : Text) :
    s'.resolveColumn name = s.resolveColumn name := by
  have named (name : Text) : s'.extras.findIdx? (fun c => c.name == name) =
      s.extras.findIdx? (fun c => c.name == name) := by
    have := congrArg (List.findIdx? (· == name)) names
    rwa [List.findIdx?_map, List.findIdx?_map] at this
  have plain (name : Text) : s'.resolvePlain name = s.resolvePlain name := by
    simp only [resolvePlain, columns, page, named]
  have qualified (t : TableName) (name : Text) :
      s'.resolveQualified t name = s.resolveQualified t name := by
    simp only [resolveQualified, columns, page, path]
  unfold resolveColumn
  split
  · exact plain _
  · exact qualified _ _
  · rfl

theorem agreesOn_of_names (path : s'.path = s.path) (page : s'.page = s.page)
    (names : s'.extras.map ExtraColumn.name = s.extras.map ExtraColumn.name)
    (shown : ∀ r, S r → ∀ i, s.resolveColumn r.column = .ok (.extra i) → ∀ row, r.Covers row →
      s'.shown i row = s.shown i row) : AgreesOn S s s' := by
  refine ⟨path, page, fun r mem => ?_⟩
  rw [resolveColumn_congr path page names]
  cases target : s.resolveColumn r.column with
  | error e => exact .error e
  | ok t =>
    cases t with
    | database i c => exact .database i c
    | extra i => exact .extra (shown r mem i target)

theorem populated_eq_populatedFrom (s : Sheet) (i : Nat) (r : Reference) : s.populated i r =
    ExtraColumn.populatedFrom ((s.extras[i]?.map ExtraColumn.cells).getD [])
      (r.firstRow - 1) (r.lastRow maxRow - (r.firstRow - 1)) := by
  unfold populated
  cases s.extras[i]? with
  | none => simp [ExtraColumn.populatedFrom]
  | some c => rfl

theorem shown_eq_getElem? (s : Sheet) (i row : Nat) : s.shown i row =
    ((s.extras[i]?.map ExtraColumn.cells).getD [])[row]?.bind FormulaCell.value := by
  unfold Sheet.shown
  cases s.extras[i]? <;> simp

/-- Extra columns that show the same in the rows of a reference are populated alike there. -/
theorem populated_congr {i' : Nat} (shown : ∀ row, r.Covers row → s'.shown i' row = s.shown i row) :
    s'.populated i' r = s.populated i r := by
  rw [populated_eq_populatedFrom, populated_eq_populatedFrom]
  refine ExtraColumn.populatedFrom_congr fun k lower upper => ?_
  rw [← shown_eq_getElem?, ← shown_eq_getElem?]
  refine shown k ⟨?_, ?_⟩ <;> omega

namespace AgreesOn

/-- A reference to a cell denotes the same cell. -/
theorem resolveCell_eq (h : AgreesOn S s s') {column : Text} {row : Nat}
    (mem : S (.cell column row)) : s'.resolveCell column row = s.resolveCell column row := by
  cases row with
  | zero => rfl
  | succ k =>
    have alike := h.alike _ mem
    simp only [Reference.column] at alike
    unfold resolveCell
    generalize s.resolveColumn column = target at alike ⊢
    generalize s'.resolveColumn column = target' at alike ⊢
    cases alike with
    | error e => rfl
    | database i c => simp only [rows, h.page]; rfl
    | extra shown =>
      have covered : (Reference.cell column (k + 1)).Covers k := ⟨Nat.le_refl _, Nat.le_refl _⟩
      exact congrArg Except.ok (shown k covered)

end AgreesOn

end Sheet

end JoinSheet
