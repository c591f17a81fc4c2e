import JoinSheet.Proofs.Evaluation.Precedence
import JoinSheet.Proofs.Sheet.HandWritten
import JoinSheet.Proofs.Sheet.Values

/-!
# Formulas that look back

The formulas of a sheet are evaluated again column by column and downwards, each on what the ones
before it have left. A formula that reads extra columns only in cells before its own does not see
what is changed after it. So if all formulas look back, each cell ends with what its formula
evaluates to on the sheet that is left, and evaluating once more changes nothing.

## Main definitions

* `Sheet.Before` — the order in which cells are evaluated.
* `Sheet.LooksBack` — every formula reads extra columns only in cells before its own.
* `Sheet.SettledAt` — formulas at some places have been evaluated on the sheet as it is.

## Main statements

* `Sheet.LooksBack.valueOf_setValue` — which formulas do not see a cell.
* `Sheet.SettledAt.exists_recomputeCell` — one cell more is settled.
* `Sheet.SettledAt.exists_foldlM` — all cells that follow are settled.
* `Sheet.recompute_settles` — evaluating again comes to a fixed point.
-/

namespace JoinSheet

open JoinSheet.Action

namespace Sheet

variable {s s' : Sheet} {answers : Answers} {connection : Option Dialect} {i row j k : Nat}
  {formula : Text} {cell : FormulaCell} {done rest : List (Nat × Nat)}

/-! ## The order of cells -/

/-- The place `p` comes before the place `q`: in a column to the left, or above in the same one. -/
def Before (p q : Nat × Nat) : Prop := p.1 < q.1 ∨ p.1 = q.1 ∧ p.2 < q.2

theorem Before.ne {p q : Nat × Nat} (h : Before p q) : p ≠ q := by
  rintro rfl
  unfold Before at h
  omega

theorem Before.trans {p q r : Nat × Nat} (h : Before p q) (h' : Before q r) : Before p r := by
  unfold Before at *
  omega

theorem mem_extraPlaces (h : s.cellAt i row = some cell) : (i, row) ∈ s.extraPlaces := by
  obtain ⟨column, there, here⟩ := cellAt_eq_some.1 h
  refine List.mem_flatMap.2 ⟨(column, i), List.mk_mem_zipIdx_iff_getElem?.2 there, ?_⟩
  refine List.mem_map.2 ⟨row, List.mem_range.2 ?_, rfl⟩
  exact (List.getElem?_eq_some_iff.1 here).1

/-- The places of a sheet are listed in order. -/
theorem pairwise_extraPlaces (s : Sheet) : s.extraPlaces.Pairwise Before := by
  refine List.pairwise_flatMap.2 ⟨fun column _ => ?_, ?_⟩
  · rw [List.pairwise_map]
    exact List.pairwise_lt_range.imp fun below => .inr ⟨rfl, below⟩
  · have columns : s.extras.zipIdx.Pairwise fun c c' => c.2 < c'.2 := by
      rw [← List.pairwise_map (f := Prod.snd), List.zipIdx_map_snd]
      exact List.pairwise_lt_range' 1
    refine columns.imp fun left p hp q hq => ?_
    obtain ⟨_, -, rfl⟩ := List.mem_map.1 hp
    obtain ⟨_, -, rfl⟩ := List.mem_map.1 hq
    exact .inl left

/-! ## Looking back -/

/-- In the cell at a row of an extra column, the formula reads extra columns only to the left, or in
rows of its own column that end above. Rows count from 0 here and from 1 in references. -/
def LooksBackAt (s : Sheet) (i row : Nat) (formula : Text) : Prop :=
  ∀ tokens, s.scan formula = .ok tokens → ∀ r, Token.Refers tokens r →
    ∀ k, s.resolveColumn r.column = .ok (.extra k) → k < i ∨ k = i ∧ r.lastRow maxRow ≤ row

/-- Every formula of the sheet reads extra columns only in cells before its own. -/
def LooksBack (s : Sheet) : Prop :=
  ∀ i row cell, s.cellAt i row = some cell → s.LooksBackAt i row cell.formula

instance (s : Sheet) (i row : Nat) (r : Reference) : Decidable (∀ k,
    s.resolveColumn r.column = .ok (.extra k) → k < i ∨ k = i ∧ r.lastRow maxRow ≤ row) :=
  match s.resolveColumn r.column with
  | .ok (.extra k) => decidable_of_iff (k < i ∨ k = i ∧ r.lastRow maxRow ≤ row)
    ⟨fun h _ same => by cases same; exact h, fun h => h k rfl⟩
  | .ok (.database _ _) => isTrue nofun
  | .error _ => isTrue nofun

instance (s : Sheet) (i row : Nat) (formula : Text) : Decidable (s.LooksBackAt i row formula) :=
  inferInstanceAs (Decidable (∀ tokens, s.scan formula = .ok tokens → ∀ r, Token.Refers tokens r →
    ∀ k, s.resolveColumn r.column = .ok (.extra k) → k < i ∨ k = i ∧ r.lastRow maxRow ≤ row))

instance (s : Sheet) : Decidable s.LooksBack :=
  decidable_of_iff (∀ p ∈ s.extraPlaces, ∀ cell ∈ s.cellAt p.1 p.2,
    s.LooksBackAt p.1 p.2 cell.formula)
    ⟨fun h i row cell there => h (i, row) (mem_extraPlaces there) cell there,
      fun h p _ cell there => h p.1 p.2 cell there⟩

theorem LooksBack.of_unevaluated (back : s.LooksBack) (same : s'.unevaluated = s.unevaluated) :
    s'.LooksBack := by
  intro i row cell there tokens scanned r refers k target
  have formula := formula_of_unevaluated same i row
  rw [there] at formula
  obtain ⟨own, there', formula⟩ := Option.map_eq_some_iff.1 formula.symm
  rw [scan_of_unevaluated same, ← formula] at scanned
  rw [resolveColumn_of_unevaluated same] at target
  exact back i row own there' tokens scanned r refers k target

/-- A formula that looks back does not see what changes from its own cell on. -/
theorem evaluate_eq_of_looksBackAt (back : s.LooksBackAt i row formula)
    (same : s'.unevaluated = s.unevaluated)
    (shown : ∀ p, Before p (i, row) → s'.shown p.1 p.2 = s.shown p.1 p.2) :
    s'.evaluate connection formula = s.evaluate connection formula := by
  unfold evaluate
  rw [scan_of_unevaluated same]
  cases scanned : s.scan formula with
  | error e => rfl
  | ok tokens =>
    rw [liftM_ok_bind, liftM_ok_bind]
    obtain ⟨path, page⟩ := sameTables_of_unevaluated same
    refine evaluateTokens_eq_of_agreesOn (agreesOn_of_names path page (names_of_unevaluated same) ?_)
    intro r refers k target j covered
    have upper := covered.2
    refine shown (k, j) ?_
    rcases back tokens scanned r refers k target with left | ⟨own, above⟩
    · exact .inl left
    · exact .inr ⟨own, by omega⟩

/-! ## One cell -/

/-- What a formula evaluates to on the sheet, absent if that fails. -/
def valueOf (answers : Answers) (connection : Option Dialect) (s : Sheet) (formula : Text) : Cell :=
  (outcome answers (s.evaluate connection formula)).bind FormulaCell.value

/-- A cell with a formula gets what the formula evaluates to. -/
theorem outcome_recomputeCell (h : s.cellAt i row = some cell) (filled : cell.formula ≠ []) :
    outcome answers (s.recomputeCell connection i row) =
      some (s.setValue i row (s.valueOf answers connection cell.formula)) := by
  obtain ⟨column, there, here⟩ := cellAt_eq_some.1 h
  rw [setValue_eq_setExtra there here]
  unfold recomputeCell valueOf attempt
  simp only [there, here, if_neg filled, outcome_bind, outcome_lift, Option.bind_some]
  unfold outcome
  cases (s.evaluate connection cell.formula).run.answered answers <;> rfl

/-- Where there is no formula, nothing is done. -/
theorem outcome_recomputeCell_of_eq_nil
    (h : ∀ cell, s.cellAt i row = some cell → cell.formula = []) :
    outcome answers (s.recomputeCell connection i row) = some s := by
  unfold recomputeCell
  cases there : s.extras[i]? with
  | none => rfl
  | some column =>
    cases here : column.cells[row]? with
    | none => simp only [here]; rfl
    | some cell =>
      simp only [here, if_pos (h cell (cellAt_eq_some.2 ⟨column, there, here⟩))]
      rfl

theorem cellAt_setValue_of_before {p : Nat × Nat} (h : Before p (i, row)) (v : Cell) :
    (s.setValue i row v).cellAt p.1 p.2 = s.cellAt p.1 p.2 := by
  rw [cellAt_setValue, if_neg h.ne]

/-- Up to the cell itself, no formula sees that the value of a cell has changed. -/
theorem LooksBack.valueOf_setValue (back : s.LooksBack) {own : FormulaCell}
    (here : s.cellAt i row = some own) (filled : own.formula ≠ []) (v : Cell) {p : Nat × Nat}
    (order : Before p (i, row) ∨ p = (i, row)) (there : s.cellAt p.1 p.2 = some cell) :
    (s.setValue i row v).valueOf answers connection cell.formula =
      s.valueOf answers connection cell.formula := by
  have same : (s.setValue i row v).unevaluated = s.unevaluated := unevaluated_setValue here filled v
  unfold valueOf
  rw [evaluate_eq_of_looksBackAt (back p.1 p.2 cell there) same fun q hq => ?_]
  have earlier : Before q (i, row) := order.elim hq.trans fun eq => eq ▸ hq
  rw [shown_eq, shown_eq, cellAt_setValue_of_before earlier]

/-! ## All cells -/

/-- The formulas at these places have the values that they evaluate to on the sheet as it is. -/
def SettledAt (answers : Answers) (connection : Option Dialect) (s : Sheet)
    (places : List (Nat × Nat)) : Prop :=
  ∀ i row cell, (i, row) ∈ places → s.cellAt i row = some cell → cell.formula ≠ [] →
    cell.value = s.valueOf answers connection cell.formula

/-- The formula of a cell is evaluated after those before it. These stay settled, because they do not
see the cell. -/
theorem SettledAt.exists_recomputeCell (settled : s.SettledAt answers connection done)
    (back : s.LooksBack) (before : ∀ p ∈ done, Before p (i, row)) :
    ∃ s', outcome answers (s.recomputeCell connection i row) = some s' ∧
      s'.unevaluated = s.unevaluated ∧ s'.SettledAt answers connection (done ++ [(i, row)]) := by
  by_cases blank : ∀ cell, s.cellAt i row = some cell → cell.formula = []
  · refine ⟨s, outcome_recomputeCell_of_eq_nil blank, rfl, fun j k cell mem there filled => ?_⟩
    rw [List.mem_append, List.mem_singleton] at mem
    rcases mem with old | new
    · exact settled j k cell old there filled
    · cases new
      exact absurd (blank cell there) filled
  push Not at blank
  obtain ⟨own, there, filled⟩ := blank
  refine ⟨_, outcome_recomputeCell there filled, unevaluated_setValue there filled _, ?_⟩
  intro j k cell mem here full
  rw [List.mem_append, List.mem_singleton] at mem
  rcases mem with old | new
  · have earlier := before (j, k) old
    rw [cellAt_setValue_of_before earlier] at here
    rw [back.valueOf_setValue there filled _ (.inl earlier) here]
    exact settled j k cell old here full
  · cases new
    rw [cellAt_setValue, if_pos rfl, there] at here
    cases here
    exact (back.valueOf_setValue there filled _ (.inr rfl) there).symm

/-- All cells that follow in order are settled one after the other. -/
theorem SettledAt.exists_foldlM (settled : s.SettledAt answers connection done) (back : s.LooksBack)
    (ordered : (done ++ rest).Pairwise Before) :
    ∃ s', outcome answers (rest.foldlM (fun s (i, row) => s.recomputeCell connection i row) s) =
        some s' ∧
      s'.unevaluated = s.unevaluated ∧ s'.SettledAt answers connection (done ++ rest) := by
  induction rest generalizing s done with
  | nil => exact ⟨s, rfl, rfl, by rwa [List.append_nil]⟩
  | cons place rest ih =>
    have before : ∀ p ∈ done, Before p place := fun p hp =>
      (List.pairwise_append.1 ordered).2.2 p hp place List.mem_cons_self
    obtain ⟨s₁, next, same, settled₁⟩ := settled.exists_recomputeCell back before
    rw [List.append_cons] at ordered
    obtain ⟨s₂, later, same', settled₂⟩ := ih settled₁ (back.of_unevaluated same) ordered
    refine ⟨s₂, ?_, same'.trans same, by rwa [List.append_cons]⟩
    rw [List.foldlM_cons, outcome_bind, next]
    exact later

/-- A settled sheet is left as it is. -/
theorem SettledAt.outcome_recompute (settled : s.SettledAt answers connection s.extraPlaces) :
    outcome answers (s.recompute connection) = some s := by
  refine outcome_foldlM_self answers fun place mem => ?_
  by_cases blank : ∀ cell, s.cellAt place.1 place.2 = some cell → cell.formula = []
  · exact outcome_recomputeCell_of_eq_nil blank
  · push Not at blank
    obtain ⟨cell, there, filled⟩ := blank
    refine (outcome_recomputeCell there filled).trans ?_
    rw [← settled _ _ cell mem there filled, setValue_self there]

/-! ## Databases -/

theorem asks_evaluate_queries (s s₀ : Sheet) (connection : Option Dialect) (formula : Text) :
    (s.evaluate connection formula).Asks (Scope.Queries ⟨s₀, connection⟩) := by
  rw [evaluate_eq]
  exact asks_bind (s.asks_valueToken s₀ connection formula) fun value => asks_pure _

theorem asks_recomputeCell (s s₀ : Sheet) (connection : Option Dialect) (i row : Nat) :
    (s.recomputeCell connection i row).Asks (Scope.Queries ⟨s₀, connection⟩) := by
  unfold recomputeCell
  split
  next column there =>
    split
    next cell here =>
      refine asks_ite (fun _ => asks_pure s) fun _ => ?_
      refine asks_bind (asks_lift (s.asks_evaluate_queries s₀ connection _)) fun outcome => ?_
      cases outcome <;> exact asks_pure _
    · exact asks_pure s
  · exact asks_pure s

theorem asks_recompute (s s₀ : Sheet) (connection : Option Dialect) :
    (s.recompute connection).Asks (Scope.Queries ⟨s₀, connection⟩) :=
  asks_foldlM (fun s place => s.asks_recomputeCell s₀ connection place.1 place.2) _ _

/-- Where all formulas look back, evaluating them again comes to a fixed point: every formula has the
value that it evaluates to on the sheet that is left, absent if that fails, and evaluating once more
changes nothing. All that changes is values of formulas. -/
theorem recompute_settles {σ : Type} {server : Server σ}
    (alike : connection = none ∨ server.AnswersAlike) (back : s.LooksBack) (d : σ) :
    ∃ s', (s.recompute connection).result server d = .ok s' ∧ s'.unevaluated = s.unevaluated ∧
      (∀ i row cell, s'.cellAt i row = some cell → cell.formula ≠ [] → ∀ d,
        cell.value = ((s'.evaluate connection cell.formula).result server d).toOption.bind
          FormulaCell.value) ∧
      ∀ d, (s'.recompute connection).result server d = .ok s' := by
  obtain ⟨answers, toOption⟩ := Scope.toOption_result ⟨s, connection⟩ alike
  have start : s.SettledAt answers connection [] := nofun
  obtain ⟨s', done, kept, settled⟩ := start.exists_foldlM back s.pairwise_extraPlaces
  rw [List.nil_append] at settled
  have settled : s'.SettledAt answers connection s'.extraPlaces := by
    rwa [extraPlaces_of_unevaluated kept]
  refine ⟨s', ?_, kept, fun i row cell there filled d => ?_, fun d => ?_⟩
  · rw [← Except.toOption_eq_some, toOption (s.asks_recompute s connection)]
    exact done
  · rw [toOption (s'.asks_evaluate_queries s connection _)]
    exact settled i row cell (mem_extraPlaces there) there filled
  · rw [← Except.toOption_eq_some, toOption (s'.asks_recompute s connection)]
    exact settled.outcome_recompute

/-- The second column sums the first, in which a cell looks above. What was there before does not
matter, and what fails is absent. -/
theorem recompute_settles_columns :
    let s : Sheet := { Sheet.ofTable ⟨"s", "t"⟩ {} with
      extras := [⟨"A", [⟨some "2", "2"⟩, ⟨some "7", "=A1*3"⟩, ⟨some "9", []⟩]⟩,
        ⟨"B", [⟨none, "=SUM(A1:A2)"⟩, ⟨some "5", "=C1"⟩, ⟨none, "=B1-B2:B2"⟩]⟩] }
    let server := Server.absent
    s.LooksBack ∧ ∃ s', (s.recompute none).result server () = .ok s' ∧
      s'.extras.map (fun c => c.cells.map FormulaCell.value) =
        ([[some "2", some "6", some "9"], [some "8", none, none]] : List (List Cell)) ∧
      s'.unevaluated = s.unevaluated ∧
      (∀ i row cell, s'.cellAt i row = some cell → cell.formula ≠ [] → ∀ d,
        cell.value = ((s'.evaluate none cell.formula).result server d).toOption.bind
          FormulaCell.value) ∧
      ∀ d, (s'.recompute none).result server d = .ok s' := by
  intro s server
  have back : s.LooksBack := by decide +kernel
  have shown : ((s.recompute none).result server ()).map
      (fun s' => s'.extras.map fun c => c.cells.map FormulaCell.value) =
        .ok ([[some "2", some "6", some "9"], [some "8", none, none]] : List (List Cell)) := by
    decide +kernel
  obtain ⟨s', done, settled⟩ := recompute_settles (.inl rfl) back ()
  rw [done] at shown
  exact ⟨back, s', done, Except.ok.inj shown, settled⟩

end Sheet

end JoinSheet
