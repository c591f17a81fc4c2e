import JoinSheet.Proofs.Evaluation.Dependence
import JoinSheet.Proofs.Sheet.Fill

/-!
# Formulas written by hand

A fill evaluates every row on the sheet as it was before, and writes the cells at the end. Formulas
that are written by hand into one row after the other are evaluated on what has been written above.
Both come to the same sheet as long as no moved reference reaches a row that the fill has passed. A
running total reaches the row above, so there they differ.

## Main definitions

* `Sheet.writeDown` — the formulas written by hand.
* `Sheet.StaysClear` — no moved reference reaches a row that has been filled.

## Main statements

* `Sheet.writeDown_eq_fillDown` — a fill that stays clear does what writing by hand does.
* `Sheet.fillDown_ne_writeDown` — a fill that reads the row above does not.
-/

namespace JoinSheet

open JoinSheet.Action

namespace ExtraColumn

variable {c : ExtraColumn} {row j : Nat} {cell : FormulaCell} {cells : List FormulaCell}

/-- The column with cells written from `row` on downwards, one by one. -/
def writeFrom (c : ExtraColumn) (row : Nat) : List FormulaCell → ExtraColumn
  | [] => c
  | cell :: rest => (c.setCell row cell).writeFrom (row + 1) rest

theorem length_setCell (c : ExtraColumn) (row : Nat) (cell : FormulaCell) :
    (c.setCell row cell).cells.length = max (row + 1) c.cells.length := by
  simp [setCell]

/-- Writing a cell changes what is shown in its row only. -/
theorem value_setCell_of_ne (h : j ≠ row) :
    (c.setCell row cell).cells[j]?.bind FormulaCell.value = c.cells[j]?.bind FormulaCell.value := by
  rw [setCell, List.getElem?_set_ne (Ne.symm h), padTo, List.getElem?_append]
  split
  · rfl
  next beyond =>
    have nothing : c.cells[j]? = none := List.getElem?_eq_none (Nat.le_of_not_lt beyond)
    rw [nothing, List.getElem?_replicate]
    split <;> rfl

theorem take_setCell (c : ExtraColumn) (row : Nat) (cell : FormulaCell) :
    (c.setCell row cell).cells.take (row + 1) = padTo row {} (c.cells.take row) ++ [cell] := by
  have long : row < (padTo (row + 1) {} c.cells).length := by
    simp only [length_padTo]
    omega
  rw [setCell, List.take_add_one, List.getElem?_set_self long,
    List.take_set_of_le (Nat.le_refl row)]
  congr 1
  rw [padTo, padTo, List.take_append, List.take_replicate, List.length_take]
  congr 2
  omega

theorem cells_writeFrom (h : c.cells.length = row + cells.length) :
    (c.writeFrom row cells).cells = c.cells.take row ++ cells := by
  induction cells generalizing c row with
  | nil => rw [writeFrom, List.append_nil, List.take_of_length_le (by simp [h])]
  | cons cell rest ih =>
    have length := length_setCell c row cell
    have within : padTo row {} (c.cells.take row) = c.cells.take row := by
      simp only [padTo, List.length_take, h, List.length_cons]
      simp
    rw [List.length_cons] at h
    rw [writeFrom, ih (by omega), take_setCell, within, List.append_assoc, List.singleton_append]

/-- Cells written down to the end of a column replace what was there. -/
theorem writeFrom_eq_replaceFrom (h : cells.length = max c.cells.length (row + 1) - row) :
    c.writeFrom row cells = c.replaceFrom row cells := by
  have named (cells : List FormulaCell) (c : ExtraColumn) (row : Nat) :
      (c.writeFrom row cells).name = c.name := by
    induction cells generalizing c row with
    | nil => rfl
    | cons cell rest ih => exact ih _ _
  cases cells with
  | nil =>
    rw [List.length_nil] at h
    omega
  | cons cell rest =>
    have length := length_setCell c row cell
    rw [List.length_cons] at h
    have written : ((c.setCell row cell).writeFrom (row + 1) rest).cells =
        (c.setCell row cell).cells.take (row + 1) ++ rest :=
      cells_writeFrom (by omega)
    rw [take_setCell, List.append_assoc, List.singleton_append] at written
    exact congrArg₂ ExtraColumn.mk (named (cell :: rest) c row) written

end ExtraColumn

namespace Sheet

variable {s : Sheet} {connection : Option Dialect} {tokens : List Token} {formula : Text}
  {log : List Exchange} {i row k n : Nat}

/-! ## Writing by hand -/

/-- The sheet with a formula written into the row `distance` below its start, moved along. Below the
start a formula that fails is written without a value. -/
def writeMoved (s : Sheet) (connection : Option Dialect) (i row : Nat) (tokens : List Token)
    (distance : Nat) : Action Sheet := do
  let moved ← Formula.shift distance tokens
  let text := Token.render s.settings.marker moved
  match ← attempt (s.setCell connection i (row + distance) text) with
  | .ok (written, _) => return written
  | .error e =>
    if distance = 0 then throw e
    let column ← s.extraAt i
    return s.setExtra i (column.setCell (row + distance) ⟨none, text⟩)

/-- The sheet with a formula written into a row and, moved along, into every row below it to the end
of the column, one after the other. -/
def writeDown (s : Sheet) (connection : Option Dialect) (i row : Nat) (formula : Text) :
    Action Sheet := do
  let column ← s.extraAt i
  let tokens ← s.scan formula
  (List.range (max column.cells.length (row + 1) - row)).foldlM
    (fun s k => s.writeMoved connection i row tokens k) s

/-! ## References that stay clear -/

/-- No reference of the formula `k` rows below the start, for a `k` below `n`, reaches a row of the
column that is filled before it. -/
def StaysClear (s : Sheet) (i row n : Nat) (tokens : List Token) : Prop :=
  ∀ k < n, ∀ moved r, Formula.shift k tokens = .ok moved → Token.Refers moved r →
    s.resolveColumn r.column = .ok (.extra i) → ∀ j, r.Covers j → j < row ∨ row + k ≤ j

/-- A column that shows what the column `i` of the sheet shows, but in the first `k` rows from `row`
on. -/
structure ShowsBeside (s : Sheet) (i row k : Nat) (column : ExtraColumn) : Prop where
  name : s.extras[i]?.map ExtraColumn.name = some column.name
  value : ∀ j, j < row ∨ row + k ≤ j → column.cells[j]?.bind FormulaCell.value = s.shown i j

theorem ShowsBeside.setCell {column : ExtraColumn} (h : s.ShowsBeside i row k column)
    (cell : FormulaCell) : s.ShowsBeside i row (k + 1) (column.setCell (row + k) cell) := by
  refine ⟨h.name, fun j beside => ?_⟩
  rw [ExtraColumn.value_setCell_of_ne (by omega)]
  exact h.value j (by omega)

/-- What has been filled is out of sight of the next row. -/
theorem ShowsBeside.agreesOn {column : ExtraColumn} (h : s.ShowsBeside i row k column)
    (clear : s.StaysClear i row n tokens) (hk : k < n) {moved : List Token}
    (shifted : Formula.shift k tokens = .ok moved) :
    s.AgreesOn (Token.Refers moved) (s.setExtra i column) := by
  obtain ⟨before, there, named⟩ := Option.map_eq_some_iff.1 h.name
  obtain ⟨within, rfl⟩ := List.getElem?_eq_some_iff.1 there
  refine agreesOn_of_names rfl rfl ?_ fun r refers j target row' covered => ?_
  · rw [setExtra, List.map_set, ← named, ← List.map_set, List.set_getElem_self]
  · by_cases own : j = i
    · subst own
      have := h.value row' (clear k hk moved r shifted refers target row' covered)
      simpa [Sheet.shown, setExtra, List.getElem?_set_self within] using this
    · simp [Sheet.shown, setExtra, List.getElem?_set_ne (Ne.symm own)]

theorem evaluateTokens_eq_of_agreesOn {s' : Sheet} {text : Text}
    (h : s.AgreesOn (Token.Refers tokens) s') :
    s'.evaluateTokens connection text tokens = s.evaluateTokens connection text tokens := by
  rw [evaluateTokens, evaluateTokens, Scope.evaluate_eq_of_agreesOn h]

/-! ## Filling and writing by hand -/

/-- One row that is filled is written by hand in the same way below the rows that have been. -/
theorem Fills.writeMoved {cell : FormulaCell} {column : ExtraColumn}
    (h : s.Fills connection tokens k log cell) (scanned : s.scan formula = .ok tokens)
    (before : s.ShowsBeside i row k column) (clear : s.StaysClear i row n tokens) (hk : k < n) :
    ((s.setExtra i column).writeMoved connection i row tokens k).Follows log
      (s.setExtra i (column.setCell (row + k) cell)) := by
  obtain ⟨own, there, -⟩ := Option.map_eq_some_iff.1 before.name
  have at' : (s.setExtra i column).extraAt i = .ok column :=
    extraAt_eq_ok.2 (getElem?_setExtra there column)
  have hand {moved : List Token} (shifted : Formula.shift k tokens = .ok moved) :
      (s.setExtra i column).setCell connection i (row + k)
          (Token.render (s.setExtra i column).settings.marker moved) = (do
        let cell ← s.evaluateTokens connection (Token.render s.settings.marker moved) moved
        return (s.setExtra i (column.setCell (row + k) cell), cell)) := by
    have scanned : (s.setExtra i column).scan formula = .ok tokens := scanned
    have same := evaluate_render_moved scanned shifted connection
    rw [evaluateTokens_eq_of_agreesOn (before.agreesOn clear hk shifted)] at same
    rw [Sheet.setCell, at', liftM_ok_bind]
    exact congrArg₂ Bind.bind same (funext fun cell => by rw [setExtra_setExtra])
  unfold Sheet.writeMoved
  cases h with
  | value shifted evaluated =>
    refine follows_liftM_bind.2 ⟨_, shifted, follows_lift_bind.2 ?_⟩
    refine ⟨.ok (s.setExtra i (column.setCell (row + k) cell), cell), log, [], ?_,
      follows_pure.2 ⟨rfl, rfl⟩, by simp⟩
    rw [hand shifted]
    exact follows_bind.2 ⟨cell, log, [], evaluated, follows_pure.2 ⟨rfl, rfl⟩, by simp⟩
  | @absent moved _ e shifted failed below =>
    refine follows_liftM_bind.2 ⟨_, shifted, follows_lift_bind.2 ?_⟩
    refine ⟨.error e, log, [], ?_, ?_, by simp⟩
    · rw [hand shifted]
      exact follows_bind_error failed
    · dsimp only
      rw [if_neg below, at', liftM_ok_bind, setExtra_setExtra]
      exact follows_pure.2 ⟨rfl, rfl⟩

/-- Rows that are filled one after the other are written by hand in the same way. -/
theorem follows_foldlM_writeMoved {cells : List FormulaCell} {column : ExtraColumn}
    (scanned : s.scan formula = .ok tokens) (clear : s.StaysClear i row n tokens) {m : Nat}
    (hk : k + m ≤ n) (before : s.ShowsBeside i row k column)
    (h : ((List.range' k m).mapM (s.fillCell connection row tokens)).Follows log cells) :
    ((List.range' k m).foldlM (fun (s : Sheet) k => s.writeMoved connection i row tokens k)
      (s.setExtra i column)).Follows log (s.setExtra i (column.writeFrom (row + k) cells)) := by
  induction m generalizing k column log cells with
  | zero =>
    obtain ⟨rfl, rfl⟩ := follows_pure.1 h
    exact follows_pure.2 ⟨rfl, rfl⟩
  | succ m ih =>
    rw [List.range'_succ, List.mapM_cons] at h
    obtain ⟨cell, first, _, head, others, rfl⟩ := follows_bind.1 h
    obtain ⟨rest, later, _, tail, done, rfl⟩ := follows_bind.1 others
    obtain ⟨rfl, rfl⟩ := follows_pure.1 done
    rw [List.range'_succ, List.foldlM_cons, List.append_nil]
    have written := (fills_of_follows head).writeMoved scanned before clear (by omega)
    exact follows_bind.2 ⟨_, first, later, written, ih (by omega) (before.setCell cell) tail, rfl⟩

/-- A fill whose references stay clear of the rows that it has passed does what writing the formulas
by hand does: with every database it comes to the same sheet, and leaves the database in the same
state. -/
theorem writeDown_eq_fillDown {σ : Type} {s s' : Sheet} {connection : Option Dialect}
    {i row n : Nat} {formula : Text} {tokens : List Token} {server : Server σ} {d d' : σ}
    (scanned : s.scan formula = .ok tokens)
    (filled : (s.fillDown connection i row formula).run.run server d = (.ok (s', n), d'))
    (clear : s.StaysClear i row n tokens) :
    (s.writeDown connection i row formula).run.run server d = (.ok s', d') := by
  have follows := Dialogue.follows_transcript server (s.fillDown connection i row formula).run d
  have answered := Dialogue.answered_transcript server (s.fillDown connection i row formula).run d
  rw [filled] at follows answered
  obtain ⟨column, tokens', cells, there, scanned', rows, count, rfl⟩ := follows_fillDown.1 follows
  obtain rfl : tokens = tokens' := Except.ok.inj (scanned.symm.trans scanned')
  refine Dialogue.run_of_follows ?_ answered
  have start : s.ShowsBeside i row 0 column :=
    ⟨by rw [there]; rfl, fun j _ => by rw [Sheet.shown, there]; rfl⟩
  have length : cells.length = max column.cells.length (row + 1) - row := by
    rw [← count, ← (forall₂_of_follows_mapM rows).length_eq, List.length_range]
  rw [List.range_eq_range'] at rows
  have written := follows_foldlM_writeMoved scanned clear (Nat.le_of_eq (Nat.zero_add n)) start rows
  rw [setExtra_self there, Nat.add_zero, ExtraColumn.writeFrom_eq_replaceFrom length,
    ← List.range_eq_range', show n = _ from count] at written
  exact follows_liftM_bind.2 ⟨column, extraAt_eq_ok.2 there,
    follows_liftM_bind.2 ⟨tokens, scanned, written⟩⟩

/-- `=A3` in the second row of column A, which reads the row below. -/
theorem writeDown_eq_fillDown_below :
    let s : Sheet := { Sheet.ofTable ⟨"s", "t"⟩ {} with
      extras := [⟨"A", [⟨some "x", "x"⟩, {}, ⟨some "y", "y"⟩, ⟨some "z", "z"⟩]⟩] }
    let tokens : List Token := [⟨.operand, .range, "A3", none⟩]
    let server := Server.absent
    s.scan "=A3" = .ok tokens ∧ s.StaysClear 0 1 3 tokens ∧
      ∃ s', (s.fillDown none 0 1 "=A3").run.run server () = (.ok (s', 3), ()) ∧
        (s.writeDown none 0 1 "=A3").run.run server () = (.ok s', ()) := by
  intro s tokens server
  have scanned : s.scan "=A3" = .ok tokens := by decide +kernel
  have clear : s.StaysClear 0 1 3 tokens := by
    rintro k hk moved r shifted ⟨t, ht, -, read⟩ -
    have spelled : ∀ k < 3, ((Formula.shift (k : Nat) tokens).map fun moved =>
        moved.map fun t => (Reference.read t.text).toOption) =
          .ok [some (.cell "A" (k + 3))] := by decide +kernel
    have spelled := spelled k hk
    rw [shifted] at spelled
    have listed : moved.map (fun t => (Reference.read t.text).toOption) = _ :=
      Except.ok.inj spelled
    have mem := List.mem_map_of_mem (f := fun t => (Reference.read t.text).toOption) ht
    rw [listed, read, List.mem_singleton] at mem
    obtain rfl : r = .cell "A" (k + 3) := Option.some.inj mem
    rintro j ⟨lower, upper⟩
    simp only [Reference.firstRow, Reference.lastRow] at lower upper
    omega
  have fills : ((s.fillDown none 0 1 "=A3").result server ()).map Prod.snd = .ok 3 := by
    decide +kernel
  obtain ⟨⟨s', n⟩, filled, count⟩ := Except.map_eq_ok.1 fills
  obtain rfl : n = 3 := count
  have filled : (s.fillDown none 0 1 "=A3").run.run server () = (.ok (s', 3), ()) :=
    Prod.ext filled rfl
  exact ⟨scanned, clear, s', filled, writeDown_eq_fillDown scanned filled clear⟩

/-- The running total `=A1+1` from the second row of column A on, which reads the row above. The
third row is filled before the second one shows anything, and so it starts from nothing, but it goes
on counting when the formulas are written by hand. -/
theorem fillDown_ne_writeDown :
    let s : Sheet := { Sheet.ofTable ⟨"s", "t"⟩ {} with
      extras := [⟨"A", [⟨some "1", "1"⟩, {}, {}]⟩] }
    let server := Server.absent
    ∃ filled written, (s.fillDown none 0 1 "=A1+1").result server () = .ok (filled, 2) ∧
      (s.writeDown none 0 1 "=A1+1").result server () = .ok written ∧
      filled.extras =
        [⟨"A", [⟨some "1", "1"⟩, ⟨some "2", "=A1+1"⟩, ⟨some "1", "=A2+1"⟩]⟩] ∧
      written.extras =
        [⟨"A", [⟨some "1", "1"⟩, ⟨some "2", "=A1+1"⟩, ⟨some "3", "=A2+1"⟩]⟩] ∧
      filled ≠ written := by
  intro s server
  have fills : ((s.fillDown none 0 1 "=A1+1").result server ()).map (fun r => (r.1.extras, r.2)) =
      .ok ([⟨"A", [⟨some "1", "1"⟩, ⟨some "2", "=A1+1"⟩, ⟨some "1", "=A2+1"⟩]⟩], 2) := by
    decide +kernel
  have writes : ((s.writeDown none 0 1 "=A1+1").result server ()).map Sheet.extras =
      .ok [⟨"A", [⟨some "1", "1"⟩, ⟨some "2", "=A1+1"⟩, ⟨some "3", "=A2+1"⟩]⟩] := by
    decide +kernel
  obtain ⟨⟨filled, n⟩, result, columns⟩ := Except.map_eq_ok.1 fills
  obtain ⟨written, result', columns'⟩ := Except.map_eq_ok.1 writes
  obtain ⟨columns, rfl⟩ := Prod.ext_iff.1 columns
  refine ⟨filled, written, result, result', columns, columns', ?_⟩
  rintro rfl
  exact absurd (columns.symm.trans columns') (by decide)

end Sheet

end JoinSheet
