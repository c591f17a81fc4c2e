import JoinSheet.Proofs.Formula.Shifting
import JoinSheet.Proofs.Sheet.Fill
import JoinSheet.Proofs.Sheet.Settling

/-!
# What filled cells show

A fill evaluates the tokens that it moves, and stores them as text. The text is read as the same
tokens, so a filled cell shows what its text evaluates to on the sheet as it was. Only the first
formula has to have a value.

## Main definitions

* `Token.Stuck` — a token that cannot be moved.
* `Sheet.ShowsMoved` — cells with moved formulas and what these evaluate to.

## Main statements

* `Formula.exists_shift_eq_ok` — when the tokens of a formula can be moved.
* `Sheet.outcome_fillCell`, `Sheet.outcome_fillDown` — what a fill comes to, row by row.
* `Sheet.fillDown_values` — what filled cells show, and when filling fails.
-/

namespace JoinSheet

open JoinSheet.Action

/-! ## Tokens that cannot be moved -/

/-- The token refers to cells, but it is no reference, or one of its rows would leave the sheet. -/
def Token.Stuck (offset : Int) (t : Token) : Prop :=
  t.isRange ∧ ((∃ e, Reference.read t.text = .error e) ∨
    ∃ r, Reference.read t.text = .ok r ∧ ∃ row ∈ r.rows, ¬Reference.Stays offset row)

/-- The tokens of a formula can be moved if each of them can. -/
theorem Formula.exists_shift_eq_ok {marker : Char} {text : Text} {tokens : List Token}
    {offset : Int} (scanned : scan marker text = .ok tokens) :
    (∃ moved, shift offset tokens = .ok moved) ↔ ∀ t ∈ tokens, ¬t.Stuck offset := by
  have classified := classified_of_scan scanned
  rw [← not_iff_not, ← Except.exists_eq_error, shift, Except.exists_mapM_eq_error]
  push Not
  exact exists_congr fun t => and_congr_right fun mem =>
    Token.exists_shiftToken_eq_error (classified t mem)

/-- Above a row, a column keeps its cells, and those that are missing are empty. -/
theorem ExtraColumn.replaceFrom_eq (c : ExtraColumn) (row : Nat) (cells : List FormulaCell) :
    c.replaceFrom row cells =
      { c with cells := (List.range row).map (fun j => c.cells[j]?.getD {}) ++ cells } := by
  have above : padTo row {} (c.cells.take row) =
      (List.range row).map fun j => c.cells[j]?.getD {} := by
    have height : (padTo row ({} : FormulaCell) (c.cells.take row)).length =
        ((List.range row).map fun j => c.cells[j]?.getD {}).length := by
      rw [length_padTo, List.length_take, List.length_map, List.length_range]
      omega
    refine List.ext_getElem height fun j hj hj' => ?_
    grind [padTo]
  rw [replaceFrom, above]

namespace Sheet

variable {s : Sheet} {answers : Answers} {connection : Option Dialect} {tokens : List Token}
  {formula text : Text} {cell : FormulaCell} {i row k : Nat}

/-! ## One row -/

theorem formula_of_outcome_evaluate (h : outcome answers (s.evaluate connection text) = some cell) :
    cell.formula = text := by
  rw [evaluate_eq, outcome_bind] at h
  obtain ⟨value, -, h⟩ := Option.bind_eq_some_iff.1 h
  cases h
  rfl

/-- In a row, a fill leaves the moved formula with what it evaluates to. In the first row that may not
be missing. -/
theorem outcome_fillCell (scanned : s.scan text = .ok tokens) :
    outcome answers (s.fillCell connection row tokens k) = some cell ↔
      ∃ moved, Formula.shift k tokens = .ok moved ∧
        (k = 0 → ∃ origin, outcome answers
          (s.evaluate connection (Token.render s.settings.marker moved)) = some origin) ∧
        cell = ⟨s.valueOf answers connection (Token.render s.settings.marker moved),
          Token.render s.settings.marker moved⟩ := by
  unfold fillCell
  rw [outcome_bind, outcome_liftM, Option.bind_eq_some_iff]
  simp only [Except.toOption_eq_some, Except.mapError_eq_ok]
  refine exists_congr fun moved => and_congr_right fun shifted => ?_
  rw [← evaluate_render_moved scanned shifted connection]
  generalize Token.render s.settings.marker moved = formula
  rw [attempt, outcome_bind, outcome_lift, Option.bind_some, valueOf]
  cases evaluated : (s.evaluate connection formula).run.answered answers with
  | ok filled =>
    have value : outcome answers (s.evaluate connection formula) = some filled := by
      rw [outcome, evaluated]
      rfl
    obtain rfl := formula_of_outcome_evaluate value
    rw [value]
    simp [eq_comm]
  | error e =>
    have absent : outcome answers (s.evaluate connection formula) = none := by
      rw [outcome, evaluated]
      rfl
    rw [absent]
    by_cases start : k = 0
    · simp [start]
    · simp [start, eq_comm]

/-! ## All rows -/

theorem outcome_fillDown {r : Sheet × Nat} :
    outcome answers (s.fillDown connection i row formula) = some r ↔
      ∃ column tokens cells, s.extras[i]? = some column ∧ s.scan formula = .ok tokens ∧
        r.2 = max column.cells.length (row + 1) - row ∧
        (List.range r.2).mapM (fun k => outcome answers (s.fillCell connection row tokens k)) =
          some cells ∧
        r.1 = s.setExtra i (column.replaceFrom row cells) := by
  unfold fillDown
  simp only [outcome_bind, outcome_liftM, outcome_mapM, Option.bind_eq_some_iff,
    Except.toOption_eq_some, extraAt_eq_ok, outcome_pure, Option.some.injEq]
  constructor
  · rintro ⟨column, there, tokens, scanned, cells, filled, rfl⟩
    exact ⟨column, tokens, cells, there, scanned, rfl, filled, rfl⟩
  · rintro ⟨column, tokens, cells, there, scanned, count, filled, written⟩
    rw [count] at filled
    exact ⟨column, there, tokens, scanned, cells, filled, Prod.ext written.symm count.symm⟩

/-- A fill succeeds if the formula can be moved to all rows and has a value in the first. -/
theorem exists_outcome_fillDown :
    (∃ r, outcome answers (s.fillDown connection i row formula) = some r) ↔
      ∃ column tokens, s.extras[i]? = some column ∧ s.scan formula = .ok tokens ∧
        (∀ k < max column.cells.length (row + 1) - row, ∀ t ∈ tokens, ¬t.Stuck k) ∧
        ∀ origin, Formula.shift 0 tokens = .ok origin → ∃ cell, outcome answers
          (s.evaluate connection (Token.render s.settings.marker origin)) = some cell := by
  constructor
  · rintro ⟨r, filled⟩
    obtain ⟨column, tokens, cells, there, scanned, count, filled, -⟩ := outcome_fillDown.1 filled
    have each := Option.exists_mapM_eq_some.1 ⟨cells, filled⟩
    simp only [List.mem_range, outcome_fillCell scanned, count] at each
    refine ⟨column, tokens, there, scanned, fun k below => ?_, fun origin shifted => ?_⟩
    · obtain ⟨_, moved, shifted, -⟩ := each k below
      exact (Formula.exists_shift_eq_ok scanned).1 ⟨moved, shifted⟩
    · obtain ⟨_, moved, shifted', start, -⟩ := each 0 (by omega)
      obtain rfl : origin = moved := Except.ok.inj (shifted.symm.trans shifted')
      exact start rfl
  · rintro ⟨column, tokens, there, scanned, free, start⟩
    let count := max column.cells.length (row + 1) - row
    have each : ∀ k ∈ List.range count, ∃ cell,
        outcome answers (s.fillCell connection row tokens k) = some cell := by
      intro k mem
      obtain ⟨moved, shifted⟩ := (Formula.exists_shift_eq_ok scanned).2
        (free k (List.mem_range.1 mem))
      refine ⟨_, (outcome_fillCell scanned).2 ⟨moved, shifted, ?_, rfl⟩⟩
      rintro rfl
      exact start moved shifted
    obtain ⟨cells, filled⟩ := Option.exists_mapM_eq_some.2 each
    exact ⟨⟨s.setExtra i (column.replaceFrom row cells), count⟩,
      outcome_fillDown.2 ⟨column, tokens, cells, there, scanned, rfl, filled, rfl⟩⟩

/-- The cells hold a formula moved by their distances from the first one, and show what an evaluation
makes of its texts. Where it fails they show nothing, and in the first cell it does not fail. -/
def ShowsMoved (s : Sheet) (evaluation : Text → Except Error FormulaCell) (tokens : List Token)
    (cells : List FormulaCell) : Prop :=
  ∀ (k : Nat) (cell : FormulaCell), cells[k]? = some cell →
    (∃ moved, List.Forall₂ (Token.Shifts k) tokens moved ∧
      cell.formula = Token.render s.settings.marker moved) ∧
    (∀ evaluated, evaluation cell.formula = .ok evaluated → cell.value = evaluated.value) ∧
    ∀ e, evaluation cell.formula = .error e → cell.value = none ∧ 0 < k

theorem showsMoved_of_mapM {evaluation : Text → Except Error FormulaCell} {n : Nat}
    {cells : List FormulaCell} (scanned : s.scan formula = .ok tokens)
    (same : ∀ text, (evaluation text).toOption = outcome answers (s.evaluate connection text))
    (filled : (List.range n).mapM (fun k => outcome answers (s.fillCell connection row tokens k)) =
      some cells) : s.ShowsMoved evaluation tokens cells := by
  intro k cell here
  have length := Option.length_of_mapM filled
  rw [List.length_range] at length
  have below : k < n := length ▸ (List.getElem?_eq_some_iff.1 here).1
  rw [Option.getElem?_of_mapM filled, List.getElem?_range below, Option.bind_some,
    outcome_fillCell scanned] at here
  obtain ⟨moved, shifted, start, rfl⟩ := here
  have shifts := (Formula.shift_eq_ok (Formula.classified_of_scan scanned)).1 shifted
  refine ⟨⟨moved, shifts, rfl⟩, fun evaluated value => ?_, fun e failed => ?_⟩
  · rw [valueOf, ← same, value]
    rfl
  · simp only [valueOf, ← same, failed] at start ⊢
    refine ⟨rfl, Nat.pos_of_ne_zero fun zero => ?_⟩
    obtain ⟨origin, absent⟩ := start zero
    cases absent

/-! ## Databases -/

theorem asks_fillCell (s : Sheet) (connection : Option Dialect) (row : Nat) (tokens : List Token)
    (k : Nat) : (s.fillCell connection row tokens k).Asks (Scope.Queries ⟨s, connection⟩) := by
  unfold fillCell
  refine asks_bind (asks_liftM _) fun moved => ?_
  have evaluation : (s.evaluateTokens connection (Token.render s.settings.marker moved) moved).Asks
      (Scope.Queries ⟨s, connection⟩) := by
    refine asks_bind ?_ fun value => asks_pure _
    exact (Scope.asks_evaluate ⟨s, connection⟩ moved).mono fun _ pushed => pushed.queries
  refine asks_bind (asks_lift evaluation) fun evaluated => ?_
  cases evaluated with
  | ok cell => exact asks_pure cell
  | error e =>
    dsimp only
    split
    · exact asks_bind (asks_throw _) fun _ => asks_pure _
    · exact asks_pure _

theorem asks_fillDown (s : Sheet) (connection : Option Dialect) (i row : Nat) (formula : Text) :
    (s.fillDown connection i row formula).Asks (Scope.Queries ⟨s, connection⟩) := by
  unfold fillDown
  refine asks_bind (asks_liftM _) fun column => asks_bind (asks_liftM _) fun tokens => ?_
  refine asks_bind (asks_mapM fun k _ => ?_) fun cells => asks_pure _
  exact s.asks_fillCell connection row tokens k

/-- Filled cells show what their texts evaluate to on the sheet as it was. Each text is the formula
with its references moved by the distance from the first row. What fails there is absent, but not in
the first row. The rows above and the other columns stay. Filling fails exactly if there is no such
column, the formula has no tokens, some row cannot be reached by moving it, or it has no value in the
first row. -/
theorem fillDown_values {σ : Type} {server : Server σ}
    (alike : connection = none ∨ server.AnswersAlike) (s : Sheet) (i row : Nat) (formula : Text)
    (d d' : σ) :
    (∀ s' n, (s.fillDown connection i row formula).result server d = .ok (s', n) →
      ∃ column tokens cells, s.extras[i]? = some column ∧ s.scan formula = .ok tokens ∧
        formula = Token.render s.settings.marker tokens ∧
        n = max column.cells.length (row + 1) - row ∧ cells.length = n ∧
        s' = s.setExtra i { column with
          cells := (List.range row).map (fun j => column.cells[j]?.getD {}) ++ cells } ∧
        s.ShowsMoved (fun text => (s.evaluate connection text).result server d') tokens cells) ∧
    ((∃ e, (s.fillDown connection i row formula).result server d = .error e) ↔
      s.extras[i]? = none ∨ (∃ e, s.scan formula = .error e) ∨
        ∃ column tokens, s.extras[i]? = some column ∧ s.scan formula = .ok tokens ∧
          ((∃ k < max column.cells.length (row + 1) - row, ∃ t ∈ tokens, t.Stuck k) ∨
            ∃ origin e, Formula.shift 0 tokens = .ok origin ∧
              (s.evaluate connection (Token.render s.settings.marker origin)).result server d' =
                .error e)) := by
  obtain ⟨answers, toOption⟩ := Scope.toOption_result ⟨s, connection⟩ alike
  have evaluation (text : Text) := toOption (s.asks_evaluate_queries s connection text) d'
  have fill := toOption (s.asks_fillDown connection i row formula) d
  constructor
  · intro s' n filled
    rw [filled] at fill
    obtain ⟨column, tokens, cells, there, scanned, count, filled, written⟩ :=
      outcome_fillDown.1 fill.symm
    rw [ExtraColumn.replaceFrom_eq] at written
    have length := Option.length_of_mapM filled
    rw [List.length_range] at length
    exact ⟨column, tokens, cells, there, scanned, (Formula.render_of_scan scanned).symm, count,
      length, written, showsMoved_of_mapM scanned evaluation filled⟩
  · have succeeds : (∃ r, (s.fillDown connection i row formula).result server d = .ok r) ↔
        ∃ r, outcome answers (s.fillDown connection i row formula) = some r :=
      exists_congr fun r => by rw [← fill, Except.toOption_eq_some]
    rw [Except.exists_eq_error, succeeds, exists_outcome_fillDown]
    simp only [← evaluation, Except.toOption_eq_some, exists_and_left, Except.exists_eq_error]
    cases s.extras[i]? with
    | none => simp
    | some column =>
      cases s.scan formula with
      | error e => simp
      | ok tokens =>
        simp only [Option.some.injEq, Except.ok.injEq, exists_eq_left', exists_eq', not_true,
          reduceCtorEq, false_or, not_and_or]
        push Not
        rfl

/-- A row is written without zeros in front when it moves by nothing. Below, the formula fails. -/
theorem fillDown_values_below :
    let s : Sheet := { Sheet.ofTable ⟨"s", "t"⟩ {} with
      extras := [⟨"A", [⟨some "2", "2"⟩, ⟨some "5", "5"⟩, ⟨some "x", "x"⟩]⟩,
        ⟨"B", [⟨some "9", "9"⟩, {}, {}]⟩] }
    let server := Server.absent
    ∃ s' column tokens cells, (s.fillDown none 1 1 "=A002*2").result server () = .ok (s', 2) ∧
      s'.extras[1]? = some ⟨"B", [⟨some "9", "9"⟩, ⟨some "10", "=A2*2"⟩, ⟨none, "=A3*2"⟩]⟩ ∧
      s.extras[1]? = some column ∧ s.scan "=A002*2" = .ok tokens ∧ cells.length = 2 ∧
      s' = s.setExtra 1 { column with
        cells := (List.range 1).map (fun j => column.cells[j]?.getD {}) ++ cells } ∧
      s.ShowsMoved (fun text => (s.evaluate none text).result server ()) tokens cells := by
  intro s server
  have shown : ((s.fillDown none 1 1 "=A002*2").result server ()).map
      (fun r => (r.1.extras[1]?, r.2)) =
        .ok (some ⟨"B", [⟨some "9", "9"⟩, ⟨some "10", "=A2*2"⟩, ⟨none, "=A3*2"⟩]⟩, 2) := by
    decide +kernel
  obtain ⟨⟨s', n⟩, filled, shown⟩ := Except.map_eq_ok.1 shown
  obtain ⟨written, rfl⟩ := Prod.mk.inj shown
  obtain ⟨column, tokens, cells, there, scanned, -, -, length, whole, shows⟩ :=
    (fillDown_values (.inl rfl) s 1 1 "=A002*2" () ()).1 s' 2 filled
  exact ⟨s', column, tokens, cells, filled, written, there, scanned, length, whole, shows⟩

end Sheet

end JoinSheet
