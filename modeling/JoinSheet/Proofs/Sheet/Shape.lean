import JoinSheet.Proofs.Sheet.Columns

/-!
# The shape of extra columns

Extra columns are at least as high as the loaded page. What a command does not remove of them stays
in its place and loses no cells, and only the column that is written to, or an evaluation of
everything, changes what is in them.

## Main definitions

* `Sheet.WellShaped` — the columns have names and reach as far as the page.
* `ExtraColumn.Stays` — a column before and after a command that does not remove it.
* `Sheet.Preserves` — each column that is not removed stays.

## Main statements

* `Sheet.Reachable.shape` — the shape of extra columns, and what a command keeps of them.
-/

namespace JoinSheet

namespace ExtraColumn

/-- What is left of the column `c` at the place `i` after a change that does not remove it. -/
structure Stays (change : ColumnChange) (i : Nat) (c c' : ExtraColumn) : Prop where
  height : c.cells.length ≤ c'.cells.length
  name : (∀ name, change ≠ .rename i name) → c'.name = c.name
  cells : change ≠ .write i → change ≠ .reevaluate → c'.cells = c.cells
  formulas : change ≠ .write i → ∀ (row : Nat) (cell : FormulaCell), c.cells[row]? = some cell →
    ∃ cell', c'.cells[row]? = some cell' ∧ cell'.formula = cell.formula

/-- A column with the same cells stays, unless its name is changed. -/
theorem Stays.of_cells {change : ColumnChange} {i : Nat} {c c' : ExtraColumn}
    (cells : c'.cells = c.cells) (name : (∀ name, change ≠ .rename i name) → c'.name = c.name) :
    c.Stays change i c' where
  height := (congrArg List.length cells).ge
  name := name
  cells _ _ := cells
  formulas _ _ cell here := ⟨cell, cells ▸ here, rfl⟩

section Unevaluated

variable {n : Nat} {c c' : ExtraColumn} (same : c'.unevaluated = (c.pad n).unevaluated)

include same

theorem name_of_unevaluated : c'.name = c.name := by
  have name := congrArg ExtraColumn.name same
  exact name

theorem cells_of_unevaluated :
    c'.cells.map FormulaCell.unevaluated = (padTo n {} c.cells).map FormulaCell.unevaluated := by
  have cells := congrArg ExtraColumn.cells same
  exact cells

theorem length_of_unevaluated : c'.cells.length = max n c.cells.length := by
  simpa using congrArg List.length (cells_of_unevaluated same)

/-- A column stays when its formulas are evaluated again, also if it has been made higher before. -/
theorem Stays.of_unevaluated (i : Nat) : c.Stays .reevaluate i c' where
  height := (length_of_unevaluated same).symm ▸ Nat.le_max_right ..
  name _ := name_of_unevaluated same
  cells _ other := absurd rfl other
  formulas _ row cell here := by
    have kept : (padTo n {} c.cells)[row]? = some cell := by
      rw [padTo, List.getElem?_append_left (List.getElem?_eq_some_iff.1 here).1, here]
    have shown := congrArg (·[row]?) (cells_of_unevaluated same)
    simp only [List.getElem?_map, kept, Option.map_some, Option.map_eq_some_iff] at shown
    obtain ⟨cell', here', same⟩ := shown
    refine ⟨cell', here', ?_⟩
    rw [← cell'.formula_unevaluated, same, cell.formula_unevaluated]

end Unevaluated

end ExtraColumn

namespace Sheet

variable {s s' : Sheet} {connection : Option Dialect} {command : Command}

/-! ## Well-shaped sheets -/

/-- Every extra column has a name and at least as many cells as there are loaded rows. -/
def WellShaped (s : Sheet) : Prop := ∀ c ∈ s.extras, c.name ≠ [] ∧ s.rows.length ≤ c.cells.length

theorem Reshapes.wellShaped {change : ColumnChange} (h : s.Reshapes s' change)
    (before : s.WellShaped) : s'.WellShaped := by
  intro c' mem
  cases h with
  | add _ nonempty _ high =>
    obtain old | new := List.mem_append.1 mem
    · exact before c' old
    · obtain rfl := List.mem_singleton.1 new
      exact ⟨nonempty, high⟩
  | @rename i name c there fresh =>
    obtain old | rfl := List.mem_or_eq_of_mem_set mem
    · exact before c' old
    · obtain ⟨nonempty, high⟩ := before c (List.mem_of_getElem? there)
      obtain rfl | ⟨given, -⟩ := fresh
      · exact ⟨nonempty, high⟩
      · exact ⟨given, high⟩
  | remove => exact before c' (List.mem_of_mem_eraseIdx mem)
  | @write i c _ there name higher =>
    obtain old | rfl := List.mem_or_eq_of_mem_set mem
    · exact before c' old
    · obtain ⟨nonempty, high⟩ := before c (List.mem_of_getElem? there)
      exact ⟨name ▸ nonempty, high.trans higher⟩
  | reevaluate n extras rows =>
    have mem := extras ▸ List.mem_map_of_mem mem
    obtain ⟨c, old, same⟩ := List.mem_map.1 mem
    obtain ⟨nonempty, high⟩ := before c old
    refine ⟨ExtraColumn.name_of_unevaluated same.symm ▸ nonempty, ?_⟩
    rw [ExtraColumn.length_of_unevaluated same.symm]
    obtain rows | rows := rows
    · exact rows ▸ high.trans (Nat.le_max_right ..)
    · exact rows.trans (Nat.le_max_left ..)
  | keep extras rows =>
    obtain ⟨nonempty, high⟩ := before c' (extras ▸ mem)
    refine ⟨nonempty, ?_⟩
    obtain rows | rows := rows
    · rwa [rows]
    · simp [rows]

/-! ## What stays -/

/-- Each extra column of `s` that the change does not remove is in its place among those of `s'`. -/
def Preserves (s s' : Sheet) : ColumnChange → Prop
  | .remove i => s'.extras = s.extras ∨ s'.extras = s.extras.eraseIdx i
  | change => ∀ (i : Nat) (c : ExtraColumn), s.extras[i]? = some c →
      ∃ c', s'.extras[i]? = some c' ∧ c.Stays change i c'

theorem preserves_refl (s : Sheet) (change : ColumnChange) : s.Preserves s change := by
  cases change with
  | remove i => exact .inl rfl
  | _ => exact fun i c there => ⟨c, there, .of_cells rfl fun _ => rfl⟩

theorem Reshapes.preserves {change : ColumnChange} (h : s.Reshapes s' change) :
    s.Preserves s' change := by
  cases h with
  | add =>
    intro i c there
    have within := (List.getElem?_eq_some_iff.1 there).1
    exact ⟨c, by rw [List.getElem?_append_left within, there], .of_cells rfl fun _ => rfl⟩
  | @rename j name d there' =>
    intro i c there
    rw [setExtra]
    by_cases own : j = i
    · subst own
      obtain rfl : d = c := Option.some.inj (there'.symm.trans there)
      refine ⟨_, List.getElem?_set_self (List.getElem?_eq_some_iff.1 there).1, .of_cells rfl ?_⟩
      exact fun other => absurd rfl (other name)
    · exact ⟨c, by rw [List.getElem?_set_ne own, there], .of_cells rfl fun _ => rfl⟩
  | remove => exact .inr rfl
  | @write j d d' there' name higher =>
    intro i c there
    rw [setExtra]
    by_cases own : j = i
    · subst own
      obtain rfl : d = c := Option.some.inj (there'.symm.trans there)
      refine ⟨d', List.getElem?_set_self (List.getElem?_eq_some_iff.1 there).1, higher,
        fun _ => name, fun other => absurd rfl other, fun other => absurd rfl other⟩
    · exact ⟨c, by rw [List.getElem?_set_ne own, there], .of_cells rfl fun _ => rfl⟩
  | reevaluate n extras =>
    intro i c there
    have shown := congrArg (·[i]?) extras
    simp only [List.getElem?_map, there, Option.map_some, Option.map_eq_some_iff] at shown
    obtain ⟨c', there', same⟩ := shown
    exact ⟨c', there', .of_unevaluated same i⟩
  | keep extras => exact fun i c there => ⟨c, extras ▸ there, .of_cells rfl fun _ => rfl⟩

/-- The extra columns of a reachable sheet have distinct names, none of them empty, and are as high
as the loaded page. Whatever command comes next, each of them stays where it is with its cells,
except for the one that is removed or called on and for evaluations of everything, which keep the
formulas. -/
theorem Reachable.shape (h : s.Reachable) :
    s.WellShaped ∧ (s.extras.map ExtraColumn.name).Nodup ∧
    ∀ (σ : Type) (server : Server σ) (d : σ) (connection : Option Dialect) (catalog : Catalog)
      (command : Command),
      s.Preserves (Workbook.run server connection command ⟨s, catalog⟩ d).1.2.sheet
        command.change := by
  refine ⟨?_, h.distinct, fun σ server d connection catalog command => ?_⟩
  · exact h.of_becomes (fun _ _ => nofun) fun _ _ _ _ before becomes =>
      becomes.reshapes.wellShaped before
  · obtain kept | becomes :=
      Workbook.sheet_run_eq_or_becomes server connection command ⟨s, catalog⟩ d
    · exact kept.symm ▸ s.preserves_refl command.change
    · exact becomes.reshapes.preserves

/-- The third row of the second column is filled, which has one cell so far. The first column is not
touched. -/
theorem shape_fill :
    let seven := (Sheet.ofTable ⟨"s", "t"⟩ { extraRows := 1 }).afterAlone
      [.addColumn none, .addColumn (some "next"), .setCell 0 0 "=7"]
    let filled := seven.afterAlone [.fillDown 1 2 "=A1"]
    seven.Reachable ∧ seven.WellShaped ∧
      filled.extras = [⟨"A", [⟨some "7", "=7"⟩]⟩, ⟨"next", [{}, {}, ⟨some "7", "=A1"⟩]⟩] ∧
      seven.Preserves filled (.write 1) := by
  intro seven filled
  have reachable : seven.Reachable := (Reachable.start _ _).afterAlone _
  obtain ⟨wellShaped, -, preserves⟩ := reachable.shape
  exact ⟨reachable, wellShaped, by decide +kernel,
    preserves Unit Server.absent () none {} (.fillDown 1 2 "=A1")⟩

end Sheet

end JoinSheet
