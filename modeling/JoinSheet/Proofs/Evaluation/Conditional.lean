import JoinSheet.Proofs.Evaluation.Condition
import JoinSheet.Proofs.Formula.Moving
import JoinSheet.Proofs.Number.Counting
import JoinSheet.Proofs.Sheet.Agreement
import Mathlib.Data.List.Sort

/-!
# Conditional functions over extra columns

Over extra columns a conditional function goes through the rows that its range covers, one after
the other. What comes out depends on two lists only: the rows that meet the criterion, and the texts
that the value column shows in them.

## Main definitions

* `Sheet.rowsShowing` — the rows of a range in which an extra column shows certain texts.
* `Conditional.summary?` — what a conditional function makes of these rows.
* `IsRange` — tokens that are a range.

## Main statements

* `Scope.evaluate_conditional` — the value of a call of a conditional function.
-/

namespace JoinSheet

/-! ## Rows that meet a criterion -/

instance (r : Reference) (row : Nat) : Decidable (r.Covers row) :=
  inferInstanceAs (Decidable (_ ∧ _))

namespace Sheet

/-- The rows of a range, up to the end of an extra column, in which the column shows a text that
satisfies `p`. -/
def rowsShowing (s : Sheet) (i : Nat) (r : Reference) (p : Text → Bool) : List Nat :=
  (List.range ((s.extras[i]?.map ExtraColumn.cells).getD []).length).filter fun row =>
    r.Covers row && (s.shown i row).any p

end Sheet

theorem ExtraColumn.populatedFrom_eq_filterMap (cells : List FormulaCell) (row n : Nat) :
    populatedFrom cells row n = (List.range' row n).filterMap fun k =>
      (cells[k]?.bind FormulaCell.value).map fun t => (k, t) := by
  induction n generalizing row with
  | zero => simp [populatedFrom]
  | succ n ih =>
    rw [populatedFrom_succ, List.range'_succ, List.filterMap_cons, ih]
    cases cells[row]?.bind FormulaCell.value <;> rfl

namespace Sheet

variable {s : Sheet} {i : Nat} {r : Reference} {p : Text → Bool}

theorem lt_height_of_shown {row : Nat} {t : Text} (h : s.shown i row = some t) :
    row < ((s.extras[i]?.map ExtraColumn.cells).getD []).length := by
  rw [shown_eq_getElem?] at h
  by_contra beyond
  rw [List.getElem?_eq_none (Nat.le_of_not_lt beyond)] at h
  cases h

/-- These rows, in the order in which the rows of the range are looked at. -/
theorem rowsShowing_eq_filter (s : Sheet) (i : Nat) (r : Reference) (p : Text → Bool) :
    s.rowsShowing i r p =
      (List.range' (r.firstRow - 1) (r.lastRow maxRow - (r.firstRow - 1))).filter fun row =>
        (s.shown i row).any p := by
  refine (List.pairwise_lt_range.filter _).eq_of_mem_iff ((List.pairwise_lt_range' 1).filter _) ?_
  intro row
  simp only [List.mem_filter, List.mem_range, List.mem_range'_1, Bool.and_eq_true,
    decide_eq_true_eq]
  constructor
  · rintro ⟨-, ⟨lower, upper⟩, meets⟩
    exact ⟨by omega, meets⟩
  · rintro ⟨⟨lower, upper⟩, meets⟩
    obtain ⟨t, shown, -⟩ := Option.any_eq_true .. |>.1 meets
    exact ⟨lt_height_of_shown shown, ⟨by omega, by omega⟩, meets⟩

theorem map_fst_populated (s : Sheet) (i : Nat) (r : Reference) (p : Text → Bool) :
    ((s.populated i r).filter fun cell => p cell.2).map Prod.fst = s.rowsShowing i r p := by
  rw [rowsShowing_eq_filter, populated_eq_populatedFrom, ExtraColumn.populatedFrom_eq_filterMap,
    List.filter_filterMap, List.map_filterMap, ← List.filterMap_eq_filter]
  refine congrArg (List.filterMap · _) (funext fun row => ?_)
  rw [← shown_eq_getElem?, Option.guard]
  cases s.shown i row with
  | none => rfl
  | some t => cases holds : p t <;> simp [Option.filter, holds]

theorem length_rowsShowing_le (s : Sheet) (i : Nat) (r : Reference) (p : Text → Bool) :
    (s.rowsShowing i r p).length ≤ r.lastRow maxRow := by
  rw [rowsShowing_eq_filter]
  refine (List.length_filter_le _ _).trans ?_
  rw [List.length_range']
  exact Nat.sub_le _ _

end Sheet

/-! ## The fold over the rows -/

section Fold

variable {criterion : CellCriterion} {values : List FormulaCell} {column : Text}
  {cells : List (Nat × Text)} {tally : Tally} {n : Nat}

/-- Rows that do not meet the criterion do not matter. -/
theorem foldlM_tallyRow_filter (f : Conditional) :
    cells.foldlM (tallyRow f criterion values column) tally =
      (cells.filter fun cell => criterion.holds cell.2).foldlM
        (tallyRow f criterion values column) tally := by
  rw [List.foldlM_filter]
  congr 1
  funext tally cell
  cases meets : criterion.holds cell.2 with
  | false => simp only [tallyRow, meets]; rfl
  | true => rfl

/-- Counting the rows loses nothing. -/
theorem foldlM_tallyRow_countIf (meet : ∀ cell ∈ cells, criterion.holds cell.2)
    (small : n + cells.length < 2 ^ 53) (x : Float) :
    cells.foldlM (tallyRow .countIf criterion values column) ⟨x, .ofNat n⟩ =
      .ok ⟨x, .ofNat (n + cells.length)⟩ := by
  induction cells generalizing n with
  | nil => rfl
  | cons cell cells ih =>
    obtain ⟨meets, later⟩ := List.forall_mem_cons.1 meet
    rw [List.length_cons] at small ⊢
    have step : tallyRow .countIf criterion values column ⟨x, .ofNat n⟩ cell =
        .ok ⟨x, .ofNat (n + 1)⟩ := by
      rw [← Number.ofNat_add_one (by omega)]
      simp [tallyRow, meets]
    rw [List.foldlM_cons, step, Except.ok_bind, ih later (by omega), Nat.add_right_comm,
      Nat.add_assoc]

/-- The numbers beside the rows are added up and counted, if all texts there are numbers. -/
theorem toOption_foldlM_tallyRow {f : Conditional} (sums : f ≠ .countIf)
    (meet : ∀ cell ∈ cells, criterion.holds cell.2) (small : n + cells.length < 2 ^ 53)
    (values : List FormulaCell) (column : Text) (x : Float) :
    (cells.foldlM (tallyRow f criterion values column) ⟨x, .ofNat n⟩).toOption =
      ((cells.filterMap fun cell => values[cell.1]?.bind FormulaCell.value).mapM
        Number.readTrimmed?).map fun xs => ⟨xs.foldl (· + ·) x, .ofNat (n + xs.length)⟩ := by
  induction cells generalizing n x with
  | nil => rfl
  | cons cell cells ih =>
    obtain ⟨meets, later⟩ := List.forall_mem_cons.1 meet
    rw [List.length_cons] at small
    rw [List.foldlM_cons, List.filterMap_cons]
    cases shown : values[cell.1]?.bind FormulaCell.value with
    | none =>
      have step : tallyRow f criterion values column ⟨x, .ofNat n⟩ cell = .ok ⟨x, .ofNat n⟩ := by
        simp [tallyRow, meets, sums, shown]
      rw [step, Except.ok_bind, ih later (by omega)]
    | some t =>
      simp only [List.mapM_cons]
      cases read : Number.readTrimmed? t with
      | none =>
        have step : ∃ e, tallyRow f criterion values column ⟨x, .ofNat n⟩ cell = .error e := by
          simp [tallyRow, meets, sums, shown, read]
        obtain ⟨e, step⟩ := step
        rw [step]
        rfl
      | some y =>
        have step : tallyRow f criterion values column ⟨x, .ofNat n⟩ cell =
            .ok ⟨x + y, .ofNat (n + 1)⟩ := by
          rw [← Number.ofNat_add_one (by omega)]
          simp [tallyRow, meets, sums, shown, read, Tally.add]
        rw [step, Except.ok_bind, ih later (by omega)]
        generalize List.mapM (m := Option) _ _ = numbers
        cases numbers with
        | none => rfl
        | some xs => simp [Nat.add_right_comm, Nat.add_assoc]

end Fold

/-! ## Calls -/

namespace Conditional

/-- What a conditional function makes of a tally. -/
def finish (f : Conditional) (tally : Tally) : Except Error Token :=
  match f with
  | countIf => .ok (.ofNumber tally.count)
  | sumIf => .ok (.ofNumber tally.sum)
  | averageIf =>
    if tally.count == 0.0 then .error (.eval (.noMatchingRows f.toText))
    else .ok (.ofNumber (tally.sum / tally.count))

/-- What a conditional function makes of the rows that meet its criterion and of the texts beside
them. -/
def summary? (f : Conditional) (rows : List Nat) (texts : List Text) : Option Token :=
  match f with
  | countIf => some (.ofNumber (.ofNat rows.length))
  | sumIf => (texts.mapM Number.readTrimmed?).map fun xs => .ofNumber (xs.foldl (· + ·) 0.0)
  | averageIf =>
    if texts = [] then none
    else (texts.mapM Number.readTrimmed?).map fun xs =>
      .ofNumber (xs.foldl (· + ·) 0.0 / .ofNat texts.length)

end Conditional

/-- Over rows that all meet the criterion, what comes out depends on the rows and on the texts
beside them. -/
theorem Conditional.toOption_finish {criterion : CellCriterion} {cells : List (Nat × Text)}
    (meet : ∀ cell ∈ cells, criterion.holds cell.2) (small : cells.length < 2 ^ 53)
    (f : Conditional) (values : List FormulaCell) (column : Text) :
    (cells.foldlM (tallyRow f criterion values column) {} >>= f.finish).toOption =
      f.summary? (cells.map Prod.fst)
        (cells.filterMap fun cell => values[cell.1]?.bind FormulaCell.value) := by
  have zero : ({} : Tally) = ⟨0.0, .ofNat 0⟩ := congrArg (Tally.mk 0.0) (by decide +kernel)
  have small : 0 + cells.length < 2 ^ 53 := by omega
  rw [zero]
  by_cases counts : f = .countIf
  · subst counts
    rw [foldlM_tallyRow_countIf meet small, Nat.zero_add, ← List.length_map Prod.fst]
    rfl
  rw [Except.toOption_bind, toOption_foldlM_tallyRow counts meet small]
  have few := List.length_filterMap_le (fun cell : Nat × Text =>
    values[cell.1]?.bind FormulaCell.value) cells
  generalize List.filterMap _ cells = texts at few ⊢
  cases read : texts.mapM Number.readTrimmed? with
  | none => cases f <;> simp_all [summary?]
  | some xs =>
    have count : 0 + xs.length = texts.length := by rw [Nat.zero_add, Option.length_of_mapM read]
    have zero : (Float.ofNat texts.length == 0.0) = decide (texts = []) := by
      rw [Number.ofNat_beq_zero (by omega)]
      cases texts <;> rfl
    rw [Option.map_some, Option.bind_some, count]
    cases f with
    | countIf => exact absurd rfl counts
    | sumIf => simp [summary?, read, finish, Except.toOption]
    | averageIf =>
      simp only [finish, summary?, zero, read, Option.map_some, decide_eq_true_eq]
      split <;> rfl

/-- Only the rows of the range that meet the criterion and the texts beside them matter. -/
theorem Conditional.toOption_finish_populated (f : Conditional) (s : Sheet) (i j : Nat)
    {r : Reference} (criterion : CellCriterion) (column : Text)
    (small : r.lastRow maxRow ≤ maxRow) :
    ((s.populated i r).foldlM (tallyRow f criterion
      ((s.extras[j]?.map ExtraColumn.cells).getD []) column) {} >>= f.finish).toOption =
      f.summary? (s.rowsShowing i r criterion.holds)
        ((s.rowsShowing i r criterion.holds).filterMap (s.shown j)) := by
  have rows := s.map_fst_populated i r criterion.holds
  have length : ((s.populated i r).filter fun cell => criterion.holds cell.2).length < 2 ^ 53 := by
    have covered := s.length_rowsShowing_le i r criterion.holds
    have : maxRow < 2 ^ 53 := by decide
    rw [← rows, List.length_map] at covered
    omega
  have texts : s.shown j = fun row =>
      ((s.extras[j]?.map ExtraColumn.cells).getD [])[row]?.bind FormulaCell.value :=
    funext (s.shown_eq_getElem? j)
  rw [foldlM_tallyRow_filter, toOption_finish (fun cell mem => (List.mem_filter.1 mem).2) length,
    rows, texts, ← rows, List.filterMap_map]
  rfl

namespace Scope

open JoinSheet.Action

variable {scope : Scope} {f : Conditional} {C V : Reference} {i j : Nat}

section Tally

variable (condition : scope.sheet.resolveColumn C.column = .ok (.extra i))
  (values : scope.sheet.resolveColumn V.column = .ok (.extra j))

include condition values

/-- Over extra columns no database is needed. -/
theorem tally_extra (criterion : CellCriterion) : scope.tally f C V criterion =
    liftM ((scope.sheet.populated i C).foldlM (tallyRow f criterion
      ((scope.sheet.extras[j]?.map ExtraColumn.cells).getD []) V.column) {}) := by
  rw [← foldlM_liftM]
  simp only [tally, condition, values, liftM_ok_bind]
  rfl

end Tally

theorem liftM_finish (f : Conditional) (tally : Tally) :
    (liftM (f.finish tally) : Action Token) = match f with
      | .countIf => return Token.ofNumber tally.count
      | .sumIf => return Token.ofNumber tally.sum
      | .averageIf => do
        if tally.count == 0.0 then throw (.eval (.noMatchingRows f.toText))
        return Token.ofNumber (tally.sum / tally.count) := by
  cases f with
  | countIf => rfl
  | sumIf => rfl
  | averageIf =>
    dsimp only [Conditional.finish]
    split <;> rfl

theorem conditional_eq {condition criterion : Argument} {more : List Argument}
    (few : more.length + 2 ≤ f.maxArguments) (first : condition.range? = some (.ok C))
    (third : (more.head?.elim (.ok C) (rangeArgument f)) = .ok V) :
    scope.conditional f (condition :: criterion :: more) =
      if aligned C V then do
        let u ← criterion.value ()
        let c ← CellCriterion.read u.textValue
        let tally ← scope.tally f C V c
        f.finish tally
      else throw (.resolve (.misaligned C.toText V.toText)) := by
  have read : rangeArgument f condition = .ok C := by rw [rangeArgument, first]
  have enough : ¬more.length + 2 > f.maxArguments := by omega
  unfold conditional
  simp only [if_neg enough, read, liftM_ok_bind, liftM_finish]
  cases more with
  | nil =>
    cases third
    simp only [liftM_ok_bind]
    cases aligned C C <;> rfl
  | cons value others =>
    simp only [List.head?_cons, Option.elim_some] at third
    simp only [third, liftM_ok_bind]
    cases aligned C V <;> rfl

theorem call_conditional (f : Conditional) (arguments : List Argument) :
    scope.call f.toText arguments = scope.conditional f arguments := by
  cases f <;> rfl

/-- The value of a call of a conditional function is a number, hence its own value. -/
theorem conditional_bind_operand (f : Conditional) (arguments : List Argument) :
    (do let v ← scope.conditional f arguments; scope.operand v) =
      scope.conditional f arguments := by
  have same : (scope.conditional f arguments).Yields fun v =>
      (liftM (scope.operand v) : Action Token) = pure v :=
    yields_conditional (fun x => by
      rw [operand_of_isResult (Token.isResult_ofNumber x)]
      rfl) f
  rw [bind_congr_of_yields same, bind_pure]

end Scope

/-! ## Ranges -/

/-- The tokens are one range, with blanks around it. -/
structure IsRange (tokens : List Token) (r : Reference) : Prop where
  isBranch : IsBranch tokens
  lone : loneRange? (tokens.filter Token.isPrinted) = some (.ok r)

/-- The rows that a range covers are rows of the sheet. -/
theorem IsRange.rows {tokens : List Token} {r : Reference} (h : IsRange tokens r) :
    1 ≤ r.firstRow ∧ r.firstRow ≤ r.lastRow maxRow ∧ r.lastRow maxRow ≤ maxRow := by
  have lone := h.lone
  unfold loneRange? at lone
  split at lone
  · split at lone
    · exact Reference.rows_of_read (Option.some.inj lone)
    · cases lone
  · cases lone

/-- Ranges are aligned if they cover the same rows. -/
theorem aligned_iff {x y : List Token} {C V : Reference} (hx : IsRange x C) (hy : IsRange y V) :
    aligned C V = true ↔ ∀ row, C.Covers row ↔ V.Covers row := by
  have rowsC := hx.rows
  have rowsV := hy.rows
  simp only [aligned, Bool.and_eq_true, decide_eq_true_eq, Reference.Covers]
  constructor
  · rintro ⟨first, last⟩ row
    rw [first, last]
  · intro same
    have firstC := same (C.firstRow - 1)
    have firstV := same (V.firstRow - 1)
    have lastC := same (C.lastRow maxRow - 1)
    have lastV := same (V.lastRow maxRow - 1)
    omega

/-! ## Formulas -/

namespace Scope

open JoinSheet.Action

section Evaluate

variable {scope : Scope} {f : Conditional} {C V : Reference} {name : Text}
  {condition criterion : List Token} {values : Option (List Token)}
  (named : name.upper = f.toText) (few : f = .countIf → values = none) (hC : IsRange condition C)
  (hk : IsBranch criterion) (hV : values.elim (V = C) (IsRange · V))

include named few hC hk hV

theorem evaluate_conditional_eq :
    scope.evaluate (Token.callOf name (condition :: criterion :: values.toList)) =
      if aligned C V then do
        let u ← scope.evaluate criterion
        let c ← CellCriterion.read u.textValue
        let tally ← scope.tally f C V c
        f.finish tally
      else throw (.resolve (.misaligned C.toText V.toText)) := by
  have branches : ∀ part ∈ condition :: criterion :: values.toList, IsBranch part := by
    cases values with
    | none => simp [hC.isBranch, hk]
    | some v =>
      have third : IsRange v V := hV
      simp [hC.isBranch, hk, third.isBranch]
  have third : (values.toList.map fun a => scope.argument (a.filter Token.isPrinted)).head?.elim
      (.ok C) (rangeArgument f) = .ok V := by
    cases values with
    | none =>
      have same : V = C := hV
      rw [same]
      rfl
    | some v =>
      have lone : (scope.argument (v.filter Token.isPrinted)).range? = some (.ok V) :=
        IsRange.lone hV
      simp [rangeArgument, lone]
  have short : (values.toList.map fun a => scope.argument (a.filter Token.isPrinted)).length + 2 ≤
      f.maxArguments := by
    cases values <;> cases f <;> simp_all [Conditional.maxArguments]
  rw [evaluate_callOf branches (by simp), named, call_conditional, conditional_bind_operand]
  exact conditional_eq short hC.lone third

/-- Over aligned ranges of extra columns, only the rows that meet the criterion and the texts that
the value column shows there matter. -/
theorem toOption_result_conditional (same : aligned C V = true) {i j : Nat}
    (resolveC : scope.sheet.resolveColumn C.column = .ok (.extra i))
    (resolveV : scope.sheet.resolveColumn V.column = .ok (.extra j))
    {σ : Type} {server : Server σ} {d : σ} {u : Token} {c : CellCriterion}
    (value : (scope.evaluate criterion).result server d = .ok u)
    (read : CellCriterion.read u.textValue = .ok c) :
    ((scope.evaluate (Token.callOf name (condition :: criterion :: values.toList))).result
      server d).toOption = f.summary? (scope.sheet.rowsShowing i C c.holds)
        ((scope.sheet.rowsShowing i C c.holds).filterMap (scope.sheet.shown j)) := by
  have unasked : (do
      let u ← scope.evaluate criterion
      let c ← CellCriterion.read u.textValue
      let tally ← scope.tally f C V c
      f.finish tally : Action Token) = scope.evaluate criterion >>= fun u =>
        liftM (CellCriterion.read u.textValue >>= fun c =>
          (scope.sheet.populated i C).foldlM (tallyRow f c
            ((scope.sheet.extras[j]?.map ExtraColumn.cells).getD []) V.column) {} >>=
              f.finish) := by
    refine bind_congr fun u => ?_
    cases CellCriterion.read u.textValue with
    | error e => rfl
    | ok c =>
      rw [liftM_ok_bind, tally_extra resolveC resolveV, Except.ok_bind]
      generalize List.foldlM (m := Except Error) _ _ _ = tally
      cases tally <;> rfl
  rw [evaluate_conditional_eq named few hC hk hV, if_pos same, unasked, result_bind_liftM, value,
    Except.ok_bind, read, Except.ok_bind]
  exact f.toOption_finish_populated scope.sheet i j c V.column hC.rows.2.2

/-- Over extra columns a conditional function makes its value of the rows that meet the criterion
and of the texts that the value column shows there; without a value column it is the condition
column.
Ranges that do not cover the same rows are refused before the criterion is evaluated. -/
theorem evaluate_conditional :
    ((¬∀ row, C.Covers row ↔ V.Covers row) →
      scope.evaluate (Token.callOf name (condition :: criterion :: values.toList)) =
        throw (.resolve (.misaligned C.toText V.toText))) ∧
    ((∀ row, C.Covers row ↔ V.Covers row) → ∀ i j,
      scope.sheet.resolveColumn C.column = .ok (.extra i) →
      scope.sheet.resolveColumn V.column = .ok (.extra j) →
      ∀ (σ : Type) (server : Server σ) (d : σ) (u : Token) (c : CellCriterion),
        (scope.evaluate criterion).result server d = .ok u →
        CellCriterion.read u.textValue = .ok c →
        let rows := scope.sheet.rowsShowing i C c.holds
        ((scope.evaluate (Token.callOf name (condition :: criterion :: values.toList))).result
          server d).toOption = f.summary? rows (rows.filterMap (scope.sheet.shown j))) := by
  obtain ⟨tokens, isRange⟩ : ∃ tokens, IsRange tokens V := by
    cases values with
    | none => exact ⟨condition, (show V = C from hV) ▸ hC⟩
    | some v => exact ⟨v, hV⟩
  rw [← aligned_iff hC isRange]
  constructor
  · intro misaligned
    rw [evaluate_conditional_eq named few hC hk hV, if_neg misaligned]
  · intro same i j resolveC resolveV σ server d u c value read
    exact toOption_result_conditional named few hC hk hV same resolveC resolveV value read

end Evaluate

/-- A sum over an open range and a half-open one, with a value column that ends earlier. -/
theorem evaluate_conditional_open :
    let scope : Scope := ⟨{ Sheet.ofTable ⟨"s", "t"⟩ {} with extras :=
      [⟨"A", [{ value := some "2" }, {}, { value := some "x" }, { value := some "3" }]⟩,
        ⟨"B", [{ value := some " 10 " }, { value := some "y" }]⟩] }, none⟩
    let server := Server.absent
    let condition := [Token.operand "A:A"]
    let criterion := [Token.operand ['"', '>', '1', '"']]
    let values := [Token.operand "B1:B"]
    IsRange condition (.span "A" none none) ∧ IsBranch criterion ∧
      IsRange values (.span "B" (some 1) none) ∧
      scope.sheet.rowsShowing 0 (.span "A" none none) (CellCriterion.holds ⟨.gt, "1"⟩) = [0, 3] ∧
      ((scope.evaluate (Token.callOf "SumIf" [condition, criterion, values])).result
        server ()).toOption = some (.ofNumber 10.0) := by
  intro scope server condition criterion values
  have operand (t : Text) : IsBranch [Token.operand t] := (isComparand_operand t).isBranch
  have named : Text.upper "SumIf" = Conditional.sumIf.toText := rfl
  have first : IsRange condition (.span "A" none none) := ⟨operand _, rfl⟩
  have third : IsRange values (.span "B" (some 1) none) := ⟨operand _, rfl⟩
  have given : (some values).elim (Reference.span "B" (some 1) none = .span "A" none none)
      (IsRange · (.span "B" (some 1) none)) := third
  have value : (scope.evaluate criterion).result server () = .ok (.operand ['"', '>', '1', '"']) :=
    rfl
  have total := (evaluate_conditional named nofun first (operand _) given).2 (fun _ => Iff.rfl)
    0 1 rfl rfl Unit server () _ ⟨.gt, "1"⟩ value rfl
  refine ⟨first, operand _, third, by decide +kernel, total.trans ?_⟩
  decide +kernel

end Scope

end JoinSheet
