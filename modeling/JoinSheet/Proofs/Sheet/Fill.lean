import JoinSheet.Proofs.Database.Transcript
import JoinSheet.Proofs.Formula.Moving
import JoinSheet.Sheet.Extra

/-!
# Filling down

A fill writes a formula into a row and, moved along, into the rows below. The cells hold the moved
formulas as text, and that text is read back as the tokens that were moved.

## Main definitions

* `Sheet.Fills` — what a fill does for one row.

## Main statements

* `Sheet.follows_fillDown` — what a fill does.
* `Sheet.scan_filled` — what the filled cells hold is evaluated like the moved tokens.
-/

namespace JoinSheet

namespace Sheet

open JoinSheet.Action

variable {s : Sheet} {connection : Option Dialect} {tokens moved : List Token} {text formula : Text}
  {log : List Exchange} {i row k : Nat}

/-! ## Extra columns in their places -/

theorem extraAt_eq_ok {column : ExtraColumn} :
    s.extraAt i = .ok column ↔ s.extras[i]? = some column := by
  unfold extraAt
  cases s.extras[i]? <;> simp

theorem getElem?_setExtra {column : ExtraColumn} (there : s.extras[i]? = some column)
    (c : ExtraColumn) : (s.setExtra i c).extras[i]? = some c :=
  List.getElem?_set_self (List.getElem?_eq_some_iff.1 there).1

theorem setExtra_setExtra (s : Sheet) (i : Nat) (c c' : ExtraColumn) :
    (s.setExtra i c).setExtra i c' = s.setExtra i c' := by
  simp [setExtra]

theorem setExtra_self {column : ExtraColumn} (there : s.extras[i]? = some column) :
    s.setExtra i column = s := by
  obtain ⟨within, rfl⟩ := List.getElem?_eq_some_iff.1 there
  rw [setExtra, List.set_getElem_self]

/-! ## One row -/

/-- The exchanges of `log` make `cell` the one that a fill leaves `k` rows below its start: the
moved formula with what its tokens evaluate to, or with no value if that fails below the start. -/
inductive Fills (s : Sheet) (connection : Option Dialect) (tokens : List Token) (k : Nat) :
    List Exchange → FormulaCell → Prop where
  | value {moved : List Token} {log : List Exchange} {cell : FormulaCell}
    (shifted : Formula.shift k tokens = .ok moved)
    (evaluated : (s.evaluateTokens connection (Token.render s.settings.marker moved) moved).Follows
      log cell) : Fills s connection tokens k log cell
  | absent {moved : List Token} {log : List Exchange} {e : Error}
    (shifted : Formula.shift k tokens = .ok moved)
    (failed : (s.evaluateTokens connection (Token.render s.settings.marker moved)
      moved).run.Follows log (.error e))
    (below : k ≠ 0) :
    Fills s connection tokens k log ⟨none, Token.render s.settings.marker moved⟩

theorem fills_of_follows {cell : FormulaCell}
    (h : (s.fillCell connection row tokens k).Follows log cell) :
    s.Fills connection tokens k log cell := by
  obtain ⟨moved, shifted, h⟩ := follows_liftM_bind.1 h
  have shifted := Except.mapError_eq_ok.1 shifted
  obtain ⟨outcome, first, rest, evaluated, h, rfl⟩ := follows_lift_bind.1 h
  cases outcome with
  | ok filled =>
    obtain ⟨rfl, rfl⟩ := follows_pure.1 h
    rw [List.append_nil]
    exact .value shifted evaluated
  | error e =>
    dsimp only at h
    by_cases start : k = 0
    · rw [if_pos start] at h
      obtain ⟨_, _, _, thrown, -⟩ := follows_bind.1 h
      exact absurd thrown not_follows_throw
    · rw [if_neg start] at h
      obtain ⟨rfl, rfl⟩ := follows_pure.1 h
      rw [List.append_nil]
      exact .absent shifted evaluated start

/-- A filled cell holds the moved formula. -/
theorem Fills.formula_eq {cell : FormulaCell} (h : s.Fills connection tokens k log cell) :
    ∃ moved, Formula.shift k tokens = .ok moved ∧
      cell.formula = Token.render s.settings.marker moved := by
  cases h with
  | value shifted evaluated =>
    obtain ⟨v, _, _, -, evaluated, -⟩ := follows_bind.1 evaluated
    obtain ⟨-, rfl⟩ := follows_pure.1 evaluated
    exact ⟨_, shifted, rfl⟩
  | absent shifted => exact ⟨_, shifted, rfl⟩

/-! ## All rows -/

/-- A fill evaluates the rows from its start down to the end of the column, and puts the cells in
their place. -/
theorem follows_fillDown {r : Sheet × Nat} :
    (s.fillDown connection i row formula).Follows log r ↔
      ∃ column tokens cells, s.extras[i]? = some column ∧ s.scan formula = .ok tokens ∧
        ((List.range r.2).mapM (s.fillCell connection row tokens)).Follows log cells ∧
          r.2 = max column.cells.length (row + 1) - row ∧
            r.1 = s.setExtra i (column.replaceFrom row cells) := by
  unfold fillDown
  simp only [follows_liftM_bind, extraAt_eq_ok]
  constructor
  · rintro ⟨column, there, tokens, scanned, h⟩
    obtain ⟨cells, first, rest, filled, done, rfl⟩ := follows_bind.1 h
    obtain ⟨rfl, rfl⟩ := follows_pure.1 done
    exact ⟨column, tokens, cells, there, scanned, by rwa [List.append_nil], rfl, rfl⟩
  · rintro ⟨column, tokens, cells, there, scanned, filled, count, written⟩
    refine ⟨column, there, tokens, scanned, follows_bind.2 ⟨cells, log, [], ?_, ?_, by simp⟩⟩
    · rwa [← count]
    · rw [← count, ← written]
      exact follows_pure.2 ⟨rfl, rfl⟩

/-- What a fill leaves in a row. -/
theorem exists_fills_of_fillDown {r : Sheet × Nat}
    (h : (s.fillDown connection i row formula).Follows log r) (hk : k < r.2) :
    ∃ tokens column part cell, s.scan formula = .ok tokens ∧ r.1.extras[i]? = some column ∧
      column.cells[row + k]? = some cell ∧ s.Fills connection tokens k part cell := by
  obtain ⟨column, tokens, cells, there, scanned, filled, -, written⟩ := follows_fillDown.1 h
  have each := forall₂_of_follows_mapM filled
  have length := each.length_eq
  rw [List.length_range] at length
  obtain ⟨part, follows⟩ := List.Forall₂.get each (by simpa using hk) (length ▸ hk)
  rw [List.get_eq_getElem, List.getElem_range] at follows
  refine ⟨tokens, column.replaceFrom row cells, part, cells[k], scanned, ?_, ?_,
    fills_of_follows follows⟩
  · rw [written, getElem?_setExtra there]
  · have above : (padTo row {} (column.cells.take row)).length = row := by
      simp only [length_padTo, List.length_take]
      omega
    rw [ExtraColumn.replaceFrom, List.getElem?_append_right (by omega), above,
      Nat.add_sub_cancel_left, List.getElem?_eq_getElem]

/-! ## Formulas that are read back -/

/-- A moved formula that is stored is evaluated like the moved tokens. -/
theorem evaluate_render_moved {offset : Int} (scanned : s.scan text = .ok tokens)
    (shifted : Formula.shift offset tokens = .ok moved) (connection : Option Dialect) :
    s.evaluate connection (Token.render s.settings.marker moved) =
      s.evaluateTokens connection (Token.render s.settings.marker moved) moved := by
  have again : s.scan (Token.render s.settings.marker moved) = .ok moved :=
    Formula.scan_render_moved scanned shifted
  rw [evaluate, again]
  rfl

/-- Moved formulas survive being stored as text: what is written of the tokens is read as the same
tokens. So what a fill leaves in a cell is evaluated like the tokens that the fill evaluated, on
every sheet with the same marker. -/
theorem scan_filled {marker : Char} (scanned : Formula.scan marker text = .ok tokens) :
    (∀ (offset : Int) (moved : List Token), Formula.shift offset tokens = .ok moved →
      Formula.scan marker (Token.render marker moved) = .ok moved) ∧
    ∀ (s : Sheet) (connection : Option Dialect) (i row : Nat) (log : List Exchange)
      (r : Sheet × Nat), s.settings.marker = marker →
      (s.fillDown connection i row text).Follows log r → ∀ k < r.2,
        ∃ moved column part cell, Formula.shift k tokens = .ok moved ∧
          r.1.extras[i]? = some column ∧ column.cells[row + k]? = some cell ∧
          s.Fills connection tokens k part cell ∧ cell.formula = Token.render marker moved ∧
          ∀ (later : Sheet) (connection : Option Dialect), later.settings.marker = marker →
            later.evaluate connection cell.formula =
              later.evaluateTokens connection cell.formula moved := by
  refine ⟨fun offset moved => Formula.scan_render_moved scanned, ?_⟩
  rintro s connection i row log r rfl filled k hk
  obtain ⟨tokens', column, part, cell, scanned', there, here, fills⟩ :=
    exists_fills_of_fillDown filled hk
  obtain rfl : tokens = tokens' := Except.ok.inj (scanned.symm.trans scanned')
  obtain ⟨moved, shifted, holds⟩ := fills.formula_eq
  refine ⟨moved, column, part, cell, shifted, there, here, fills, holds, ?_⟩
  intro later connection same
  rw [holds, ← same]
  exact evaluate_render_moved (same ▸ scanned) shifted connection

/-- A number with an exponent stands beside the references that move, and `#` marks formulas. -/
theorem scan_filled_condition :
    let text : Text := "#IF(A1=\"a\",A1,-1e5-B:B)"
    let below : Text := "#IF(A2=\"a\",A2,-1e5-B:B)"
    let s : Sheet := { Sheet.ofTable ⟨"s", "t"⟩ { marker := '#' } with
      extras := [⟨"A", [⟨some "a", "a"⟩, ⟨some "b", "b"⟩]⟩, ⟨"B", [{}, {}]⟩] }
    ∃ tokens moved log r, Formula.scan '#' text = .ok tokens ∧
      Formula.shift (1 : Nat) tokens = .ok moved ∧ Formula.scan '#' below = .ok moved ∧
      (s.fillDown none 1 0 text).Follows log r ∧
      ∃ column cell, r.1.extras[1]? = some column ∧ column.cells[1]? = some cell ∧
        cell.formula = below ∧
        r.1.evaluate none cell.formula = r.1.evaluateTokens none cell.formula moved := by
  intro text below s
  have rendered : (Formula.scan '#' text >>= fun tokens =>
      (Formula.shift (1 : Nat) tokens).map (Token.render '#')) = .ok below := by decide +kernel
  obtain ⟨tokens, scanned, rendered⟩ := Except.bind_eq_ok.1 rendered
  obtain ⟨moved, shifted, rendered⟩ := Except.map_eq_ok.1 rendered
  have fills : ((s.fillDown none 1 0 text).result
      (fun _ (s : Unit) => (.error (.resolve .noConnection), s)) ()).map
        (fun r => (r.2, r.1.settings.marker)) = .ok (2, '#') := by decide +kernel
  have marker : s.settings.marker = '#' := rfl
  clear_value text below s
  obtain ⟨r, result, pair⟩ := Except.map_eq_ok.1 fills
  have count : r.2 = 2 := congrArg Prod.fst pair
  have filled := follows_transcript result
  obtain ⟨again, stored⟩ := scan_filled scanned
  obtain ⟨moved', column, part, cell, shifted', there, here, -, holds, later⟩ :=
    stored s none 1 0 _ r marker filled 1 (by omega)
  obtain rfl : moved = moved' := Except.ok.inj (shifted.symm.trans shifted')
  refine ⟨tokens, moved, _, r, scanned, shifted, ?_, filled, column, cell, there, here,
    holds.trans rendered, later r.1 none (congrArg Prod.snd pair)⟩
  rw [← rendered]
  exact again _ moved shifted

end Sheet

end JoinSheet
