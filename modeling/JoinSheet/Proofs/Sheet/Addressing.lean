import JoinSheet.Proofs.Formula.Naming
import JoinSheet.Proofs.Sheet.Columns
import JoinSheet.Proofs.Sheet.Resolution
import JoinSheet.Server.Scripted

/-!
# Cells by their names

A formula that consists of the name of a column and a row shows what the cell shows, if the name can
stand in front of a row and has no points. Columns are given any names, so not every column that a
sheet shows can be read in this way.

## Main statements

* `Sheet.evaluate_address`, `Sheet.evaluate_address_beyond` — the formula that addresses a cell reads
  the cell, if there can be such a row.
* `Sheet.Reachable.evaluate_address_column` — each column of a suitable name is read by its name.
-/

namespace JoinSheet

section FirstWithIndex

variable {α : Type} {p : α → Bool} {l : List α} {i : Nat} {a : α}

theorem firstWithIndex?_eq_some (there : l[i]? = some a) (holds : p a)
    (first : ∀ j < i, ∀ b, l[j]? = some b → p b = false) : firstWithIndex? p l = some (i, a) := by
  obtain ⟨within, rfl⟩ := List.getElem?_eq_some_iff.1 there
  have found : l.findIdx? p = some i :=
    List.findIdx?_eq_some_iff_getElem.2 ⟨within, holds, fun j before => by
      simp [first j before _ (List.getElem?_eq_getElem (before.trans within))]⟩
  rw [firstWithIndex?, found, Option.bind_some, there, Option.map_some]

end FirstWithIndex

/-- The value of a reference to a cell is that of the cell. -/
theorem Scope.operand_of_read {scope : Scope} {t : Token} {name : Text} {row : Nat}
    (value : t.isValue) (range : t.isRange) (read : Reference.read t.text = .ok (.cell name row)) :
    scope.operand t = (scope.sheet.resolveCell name row).map Token.ofCell := by
  unfold operand
  rw [value, range, read]
  simp only [Bool.not_true, Bool.false_eq_true, if_false, Except.ok_bind]
  cases scope.sheet.resolveCell name row <;> rfl

theorem Scope.evaluate_singleton (scope : Scope) {t : Token} (h : t.kind ≠ .blank) :
    scope.evaluate [t] = liftM (scope.operand t) := by
  rw [evaluate, List.filter_cons_of_pos (by simpa using h)]
  rfl

namespace Sheet

open JoinSheet.Action

variable {s : Sheet} {connection : Option Dialect} {name : Text} {i r : Nat} {c : SheetColumn}

/-- A plain name denotes the first column of the page that has it. -/
theorem resolveColumn_of_first (plain : '.' ∉ name) (there : s.columns[i]? = some c)
    (named : c.column.name = name)
    (first : ∀ j < i, ∀ d, s.columns[j]? = some d → d.column.name ≠ name) :
    s.resolveColumn name = .ok (.database i c) := by
  have found : firstWithIndex? (fun c => c.column.name == name) s.columns = some (i, c) :=
    firstWithIndex?_eq_some there (beq_iff_eq.2 named) fun j before d here =>
      beq_eq_false_iff_ne.2 (first j before d here)
  rw [resolveColumn_of_notMem plain, resolvePlain, found]

/-- The formula of a name and a row has the value of the operand that they make. -/
theorem evaluate_operand (s : Sheet) (connection : Option Dialect)
    (nameable : Reference.Nameable name) (r : Nat) :
    let formula := s.settings.marker :: (name ++ Text.ofNat r)
    s.evaluate connection formula = (do
      let value ← Scope.operand ⟨s, connection⟩ (Token.operand (name ++ Text.ofNat r))
      return ⟨value.toCell, formula⟩) := by
  intro formula
  have scanned : s.scan formula = .ok [Token.operand (name ++ Text.ofNat r)] :=
    nameable.scan s.settings.marker r
  rw [evaluate, scanned, liftM_ok_bind, evaluateTokens, Scope.evaluate_singleton _ (by simp)]

/-- The formula that addresses a cell reads the cell. -/
theorem evaluate_address (s : Sheet) (connection : Option Dialect)
    (nameable : Reference.Nameable name) (valid : Reference.IsRow r) :
    let formula := s.settings.marker :: (name ++ Text.ofNat r)
    s.evaluate connection formula = (do
      let cell ← s.resolveCell name r
      return ⟨cell, formula⟩) := by
  intro formula
  have value : Scope.operand ⟨s, connection⟩ (Token.operand (name ++ Text.ofNat r)) =
      (s.resolveCell name r).map Token.ofCell := by
    refine Scope.operand_of_read ?_ ?_ (by rw [Token.text_operand, nameable.read valid])
    · rw [nameable.operand]; rfl
    · rw [nameable.operand]; rfl
  rw [s.evaluate_operand connection nameable, value]
  cases s.resolveCell name r with
  | error e => rfl
  | ok cell =>
    rw [show (Except.ok cell).map Token.ofCell = .ok (Token.ofCell cell) from rfl, liftM_ok_bind,
      liftM_ok_bind, Token.toCell_ofCell]

/-- No formula addresses a row that a reference cannot have. -/
theorem evaluate_address_beyond (s : Sheet) (connection : Option Dialect)
    (nameable : Reference.Nameable name) (beyond : ¬Reference.IsRow r) :
    s.evaluate connection (s.settings.marker :: (name ++ Text.ofNat r)) =
      throw (.parse (.invalidRow (name ++ Text.ofNat r))) := by
  have failed : Scope.operand ⟨s, connection⟩ (Token.operand (name ++ Text.ofNat r)) =
      .error (.parse (.invalidRow (name ++ Text.ofNat r))) := by
    rw [Scope.operand, nameable.operand]
    simp only [nameable.read_beyond beyond]
    rfl
  rw [s.evaluate_operand connection nameable, failed]
  rfl

/-- On a reachable sheet whose rows are as wide as its columns, a name that can stand in front of a
row and has no points reads every cell of its column, as it is or absent: of an extra column, unless
a column of the page has the name too, and otherwise of the first column of the page that has it. -/
theorem Reachable.evaluate_address_column (h : s.Reachable)
    (wide : ∀ row ∈ s.rows, row.length = s.columns.length) (nameable : Reference.Nameable name)
    (plain : '.' ∉ name) (valid : Reference.IsRow r) (connection : Option Dialect) :
    let formula := s.settings.marker :: (name ++ Text.ofNat r)
    (∀ c ∈ s.extras, c.name = name → (∀ d ∈ s.columns, d.column.name ≠ name) →
      r ≤ c.cells.length → ∃ cell, c.cells[r - 1]? = some cell ∧
        s.evaluate connection formula = pure ⟨cell.value, formula⟩) ∧
    ∀ (i : Nat) (c : SheetColumn), s.columns[i]? = some c → c.column.name = name →
      (∀ j < i, ∀ d : SheetColumn, s.columns[j]? = some d → d.column.name ≠ name) →
      r ≤ s.rows.length → ∃ row cell, s.rows[r - 1]? = some row ∧ row[i]? = some cell ∧
        s.evaluate connection formula = pure ⟨cell, formula⟩ := by
  intro formula
  obtain ⟨k, rfl⟩ : ∃ k, r = k + 1 := Nat.exists_eq_add_of_le' valid.1
  have evaluated := s.evaluate_address connection nameable valid
  rw [Nat.add_sub_cancel]
  refine ⟨fun c mem named unnamed within => ?_, fun i c there named first within => ?_⟩
  · obtain ⟨i, found, there⟩ := h.distinct.exists_findIdx? mem
    refine ⟨c.cells[k], List.getElem?_eq_getElem within, evaluated.trans ?_⟩
    have target : s.resolveColumn name = .ok (.extra i) := by
      rw [resolveColumn_of_forall_ne plain unnamed, ← named, found]
    have shown : s.resolveCell name (k + 1) = .ok c.cells[k].value := by
      simp only [resolveCell, target, Except.ok_bind, there, Option.bind_some]
      rw [List.getElem?_eq_getElem within]
      rfl
    rw [shown, liftM_ok_bind]
  · have target := resolveColumn_of_first plain there named first
    have inRow : s.rows[k] ∈ s.rows := List.getElem_mem within
    have column : i < s.rows[k].length :=
      (wide _ inRow).symm ▸ (List.getElem?_eq_some_iff.1 there).1
    refine ⟨s.rows[k], s.rows[k][i], List.getElem?_eq_getElem within,
      List.getElem?_eq_getElem column, evaluated.trans ?_⟩
    have shown : s.resolveCell name (k + 1) = .ok s.rows[k][i] := by
      simp only [resolveCell, target, Except.ok_bind]
      rw [List.getElem?_eq_getElem within]
      simp only [List.getElem?_eq_getElem column, Option.join_some]
      rfl
    rw [shown, liftM_ok_bind]

/-- A column of the page and an extra column, with a second column of the page in between that has
the name of the first one. -/
theorem evaluate_address_column_orders :
    let orders : TableName := ⟨"s", "orders"⟩
    let lines : TableName := ⟨"s", "lines"⟩
    let columns : List (Text × List Column) :=
      [("s.orders", [{ name := "id" }]), ("s.lines", [{ name := "id" }])]
    let keys : List (ConstraintId × ForeignKey) := [(7, ⟨lines, orders, ["order"], ["id"]⟩)]
    let db : Scripted := ⟨[], .ofList columns, keys, ∅, none⟩
    let script : Script Request := { answers := [.rows [[some "3", none]]] }
    let loaded := (Sheet.ofTable orders { extraRows := 2 }).after (Scripted.server db) script
      (some .sqlite) (Catalog.ofTables [orders, lines])
      [.addColumn (some "note"), .setCell 0 1 "x", .setJoin 0 7, .reload]
    loaded.Reachable ∧ (∀ row ∈ loaded.rows, row.length = loaded.columns.length) ∧
      loaded.evaluate none "=id1" = pure ⟨some "3", "=id1"⟩ ∧
      loaded.evaluate none "=note1" = pure ⟨none, "=note1"⟩ ∧
      loaded.evaluate none "=note2" = pure ⟨some "x", "=note2"⟩ := by
  intro orders lines columns keys db script loaded
  have reachable : loaded.Reachable := (Reachable.start _ _).after _ _ _ _ _
  have wide : ∀ row ∈ loaded.rows, row.length = loaded.columns.length := by decide +kernel
  have marker : loaded.settings.marker = '=' := by decide +kernel
  have shown : loaded.columns = [⟨orders, { name := "id" }⟩, ⟨lines, { name := "id" }⟩] := by
    decide +kernel
  have rows : loaded.rows = ([[some "3", none]] : List (List Cell)) := by decide +kernel
  have extras : loaded.extras = [⟨"note", [{}, ⟨some "x", "x"⟩]⟩] := by decide +kernel
  have idOne : '=' :: (("id" : Text) ++ Text.ofNat 1) = "=id1" := by decide +kernel
  have noteOne : '=' :: (("note" : Text) ++ Text.ofNat 1) = "=note1" := by decide +kernel
  have noteTwo : '=' :: (("note" : Text) ++ Text.ofNat 2) = "=note2" := by decide +kernel
  have other : ∀ c ∈ loaded.columns, c.column.name ≠ "note" := by decide +kernel
  generalize loaded = s at *
  have ids := (reachable.evaluate_address_column wide (by decide +kernel : Reference.Nameable "id")
    (by decide) (⟨by decide, by decide⟩ : Reference.IsRow 1) none).2
  have notes (r : Nat) (valid : Reference.IsRow r) := (reachable.evaluate_address_column wide
    (by decide +kernel : Reference.Nameable "note") (by decide) valid none).1
  rw [marker] at ids notes
  refine ⟨reachable, wide, ?_, ?_, ?_⟩
  · obtain ⟨row, cell, here, there, evaluated⟩ :=
      ids 0 ⟨orders, { name := "id" }⟩ (by rw [shown]; rfl) rfl (by simp) (by rw [rows]; decide)
    rw [rows] at here
    cases here
    cases there
    rwa [idOne] at evaluated
  · obtain ⟨cell, here, evaluated⟩ := notes 1 ⟨by decide, by decide⟩
      ⟨"note", [{}, ⟨some "x", "x"⟩]⟩ (by rw [extras]; simp) rfl other (by decide)
    cases here
    rwa [noteOne] at evaluated
  · obtain ⟨cell, here, evaluated⟩ := notes 2 ⟨by decide, by decide⟩
      ⟨"note", [{}, ⟨some "x", "x"⟩]⟩ (by rw [extras]; simp) rfl other (by decide)
    cases here
    rwa [noteTwo] at evaluated

/-- Columns are given names that end in a digit, have a blank, a colon or a point in them, or make a
numeral with a digit. The formula of such a name and a row does not read the cell of that row. -/
theorem evaluate_other_names :
    let named (name : Text) := (Sheet.ofTable ⟨"s", "t"⟩ { extraRows := 1 }).afterAlone
      [.addColumn (some name), .setCell 0 0 "7"]
    ∀ name ∈ (["Q1", "unit price", "a:b", "a.b", "1e"] : List Text),
      (named name).Reachable ∧ (named name).columns = [] ∧
        (named name).extras = [⟨name, [⟨some "7", "7"⟩]⟩] ∧
        (((named name).evaluate none ('=' :: name ++ ['1'])).result Server.absent ()).toOption.map
          FormulaCell.value ≠ some (some ("7" : Text)) := by
  intro named name mem
  refine ⟨(Reachable.start _ _).afterAlone _, ?_⟩
  revert name
  decide +kernel

end Sheet

end JoinSheet
