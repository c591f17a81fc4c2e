import JoinSheet.Proofs.Database.Success
import JoinSheet.Proofs.Evaluation.Arguments
import JoinSheet.Proofs.Number.Reading
import JoinSheet.Proofs.Sheet.Addressing
import JoinSheet.Proofs.Sheet.Agreement

/-!
# Set functions over spans of extra columns

A set function reads the cells of a span of an extra column itself, and it reads numbers also with
blanks around them. A reference to a single cell is evaluated first, and blanks make a text of what
the cell shows. Apart from cells with such blanks, a span contributes what its cells contribute one
by one.

## Main definitions

* `Number.IsPadded` — a number with blanks around it.
* `Token.cells` — the references to the cells of a span.
* `Scope.Adds` — a step of a set function, by the numbers that its argument contributes.

## Main statements

* `Scope.success_call_span` — a span may be replaced by its cells.
-/

namespace JoinSheet

namespace Number

variable {t : Text}

/-- The text is a number with blanks around it. -/
def IsPadded (t : Text) : Prop := t.trim ≠ t ∧ (readTrimmed? t).isSome

theorem read?_of_trim_ne (h : t.trim ≠ t) : read? t = none := by
  cases numeral : Numeral.ofText? t with
  | none => rw [read?, numeral, Option.map_none]
  | some n => exact absurd (Numeral.trim_eq_of_ofText? (by rw [numeral]; rfl)) h

/-- Blanks decide whether a text is a number only if they are around one. -/
theorem readTrimmed?_eq (h : ¬IsPadded t) : readTrimmed? t = read? t := by
  by_cases same : t.trim = t
  · rw [readTrimmed?, same]
  · rw [read?_of_trim_ne same]
    exact Option.not_isSome_iff_eq_none.1 fun number => h ⟨same, number⟩

end Number

/-- The references to the cells of a column from the row `first` to the row `last`. -/
def Token.cells (column : Text) (first last : Nat) : List Token :=
  (List.range' first (last + 1 - first)).map fun row => operand (Reference.cell column row).toText

/-! ## What a cell contributes -/

/-- The numbers that a cell by itself contributes to a set function, if it may be among the
arguments of one. -/
def Cell.numbers? : Cell → Option (List Float)
  | none => some []
  | some t => (Number.read? t).map ([·])

/-- The cells in some rows that show something contribute what all cells in these rows do one by
one, unless blanks are around a number. -/
theorem mapM_populatedFrom {cells : List FormulaCell} {row n : Nat}
    (plain : ∀ k, row ≤ k → k < row + n →
      ∀ t ∈ cells[k]?.bind FormulaCell.value, ¬Number.IsPadded t) :
    ((ExtraColumn.populatedFrom cells row n).mapM fun cell => Number.readTrimmed? cell.2) =
      ((List.range' row n).mapM fun k => Cell.numbers? (cells[k]?.bind FormulaCell.value)).map
        List.flatten := by
  induction n generalizing row with
  | zero => simp [ExtraColumn.populatedFrom]
  | succ n ih =>
    have here := plain row (Nat.le_refl row) (by omega)
    have later := @ih (row + 1) fun k lower upper => plain k (by omega) (by omega)
    rw [ExtraColumn.populatedFrom_succ, List.mapM_append, later, List.range'_succ, List.mapM_cons]
    generalize List.mapM (m := Option) _ (List.range' (row + 1) n) = rest
    cases shown : cells[row]?.bind FormulaCell.value with
    | none => cases rest <;> rfl
    | some t =>
      have read := Number.readTrimmed?_eq (here t shown)
      simp only [Option.map_some, Option.toList_some, List.mapM_cons, List.mapM_nil, read,
        Cell.numbers?]
      cases Number.read? t <;> cases rest <;> rfl

theorem role_ofCell (t : Text) : (Token.ofCell (some t)).role ≠ .empty := by
  dsimp only [Token.ofCell]
  split
  · exact nofun
  · split <;> exact nofun

theorem number_ofCell (t : Text) : (Token.ofCell (some t)).number = Number.read? t := by
  dsimp only [Token.ofCell]
  split
  next read => exact read.symm
  next read => split <;> exact read.symm

theorem toOption_numeric_ofCell (context t : Text) :
    (numeric context (Token.ofCell (some t))).toOption = Number.read? t := by
  rw [numeric, if_neg (role_ofCell t), number_ofCell]
  cases Number.read? t <;> rfl

theorem toOption_cellNumbers (function column : Text) (cells : List (Nat × Text)) :
    (cellNumbers function column cells).toOption =
      cells.mapM fun cell => Number.readTrimmed? cell.2 := by
  rw [cellNumbers, Except.toOption_mapM]
  refine congrArg (List.mapM · cells) (funext fun cell => ?_)
  cases read : Number.readTrimmed? cell.2 <;> simp only [read] <;> rfl

namespace Scope

open JoinSheet.Action

variable {scope : Scope} {function : Text} {t : Token} {column : Text} {first last : Option Nat}
  {row i : Nat} {cell : Cell}

/-- A reference to a cell contributes what the cell contributes. -/
theorem success_contribution_cell (range : t.isRange)
    (read : Reference.read t.text = .ok (.cell column row))
    (shown : scope.sheet.resolveCell column row = .ok cell) :
    (scope.contribution function (scope.argument [t])).success =
      pure ((Cell.numbers? cell).map .numbers) := by
  have lone : loneRange? [t] = some (.ok (.cell column row)) := by
    rw [loneRange?, if_pos range, read]
  have isValue : t.isValue := by
    simp only [Token.isRange, Bool.and_eq_true] at range
    rw [Token.isValue, range.1, Bool.true_or]
  have value : (scope.argument [t]).value () = pure (Token.ofCell cell) := by
    have operand : scope.operand t = .ok (Token.ofCell cell) := by
      rw [operand_of_read isValue range read, shown]
      rfl
    exact congrArg liftM operand
  have contributed : scope.contribution function (scope.argument [t]) = (do
      let values ← (scope.argument [t]).scalar function
      return .numbers values) := by
    unfold contribution
    simp only [argument, Argument.ofPart, lone, liftM_ok_bind]
  have scalar : ((scope.argument [t]).scalar function).success = pure (Cell.numbers? cell) := by
    simp only [Argument.scalar, value, pure_bind, Token.toCell_ofCell]
    cases cell with
    | none => rfl
    | some text =>
      dsimp only [Cell.numbers?]
      rw [success_bind_of_pure (success_liftM _), toOption_numeric_ofCell]
      cases Number.read? text <;> rfl
  rw [contributed, success_bind_of_pure scalar]
  cases Cell.numbers? cell <;> rfl

/-- A span of an extra column contributes the numbers in its cells. -/
theorem success_contribution_span (range : t.isRange)
    (read : Reference.read t.text = .ok (.span column first last))
    (target : scope.sheet.resolveColumn column = .ok (.extra i)) :
    (scope.contribution function (scope.argument [t])).success =
      pure (((scope.sheet.populated i (.span column first last)).mapM fun cell =>
        Number.readTrimmed? cell.2).map .numbers) := by
  have lone : loneRange? [t] = some (.ok (.span column first last)) := by
    rw [loneRange?, if_pos range, read]
  have contributed : scope.contribution function (scope.argument [t]) = (do
      let values ← (cellNumbers function column
        (scope.sheet.populated i (.span column first last)) : Except Error (List Float))
      return .numbers values) := by
    unfold contribution
    simp only [argument, Argument.ofPart, lone, liftM_ok_bind, target]
    rfl
  rw [contributed, success_bind_of_pure (success_liftM _), toOption_cellNumbers]
  generalize List.mapM (m := Option) _ _ = values
  cases values <;> rfl

/-! ## Steps of a set function -/

/-- A step of a set function: numbers that its argument contributes are added one by one. -/
def Adds {σ : Type} (scope : Scope) (function : Text) (add : σ → Float → σ)
    (step : σ → Argument → Action σ) : Prop :=
  ∀ acc argument (numbers : Option (List Float)),
    (scope.contribution function argument).success = pure (numbers.map .numbers) →
      (step acc argument).success = pure (numbers.map fun xs => xs.foldl add acc)

theorem adds_foldArgument (scope : Scope) (f : Fold) :
    scope.Adds f.toText f.add (scope.foldArgument f) := by
  intro acc argument numbers contributed
  rw [foldArgument, success_bind_of_pure contributed]
  cases numbers <;> rfl

theorem adds_averageArgument (scope : Scope) :
    scope.Adds "AVERAGE" Tally.add scope.averageArgument := by
  intro acc argument numbers contributed
  rw [averageArgument, success_bind_of_pure contributed]
  cases numbers <;> rfl

variable {σ : Type} {add : σ → Float → σ} {step : σ → Argument → Action σ} {acc : σ}

/-- Arguments that contribute known numbers add all of them. -/
theorem Adds.success_foldlM (h : scope.Adds function add step) {α : Type} {l : List α}
    {argument : α → Argument} {numbers : α → Option (List Float)}
    (each : ∀ a ∈ l, (scope.contribution function (argument a)).success =
      pure ((numbers a).map .numbers)) :
    ((l.map argument).foldlM step acc).success =
      pure ((l.mapM numbers).map fun xs => xs.flatten.foldl add acc) := by
  induction l generalizing acc with
  | nil => rfl
  | cons a l ih =>
    obtain ⟨first, later⟩ := List.forall_mem_cons.1 each
    rw [List.map_cons, List.foldlM_cons, success_bind_of_pure (h acc _ _ first), List.mapM_cons]
    cases numbers a with
    | none => rfl
    | some xs =>
      simp only [Option.map_some, Option.elim_some, ih later]
      cases l.mapM numbers <;> simp

/-- An argument may be replaced by others that are added to the same. -/
theorem success_foldlM_replace {one : Argument} {others : List Argument}
    (same : ∀ acc, (step acc one).success = (others.foldlM step acc).success)
    (before after : List Argument) (acc : σ) :
    ((before ++ one :: after).foldlM step acc).success =
      ((before ++ others ++ after).foldlM step acc).success := by
  rw [List.append_assoc, List.foldlM_append, List.foldlM_append]
  refine success_bind_congr rfl fun acc => ?_
  rw [List.foldlM_cons, List.foldlM_append]
  exact success_bind_congr (same acc) fun _ => rfl

section Span

variable {first last : Nat} (range : t.isRange)
  (read : Reference.read t.text = .ok (.span column (some first) (some last)))
  (nameable : Reference.Nameable column)
  (target : scope.sheet.resolveColumn column = .ok (.extra i))

include read nameable target

/-- The cells of a span add the numbers that they contribute one by one. -/
theorem Adds.success_cells (h : scope.Adds function add step) (acc : σ) :
    (((Token.cells column first last).map fun cell => scope.argument [cell]).foldlM
      step acc).success =
      pure (((List.range' (first - 1) (last + 1 - first)).mapM fun row =>
        Cell.numbers? (scope.sheet.shown i row)).map fun xs => xs.flatten.foldl add acc) := by
  obtain ⟨valid, -, small⟩ := Reference.rows_of_read read
  obtain ⟨k, rfl⟩ : ∃ k, first = k + 1 := Nat.exists_eq_add_of_le' valid
  have upper : last ≤ maxRow := small
  have cells : (Token.cells column (k + 1) last).map (fun cell => scope.argument [cell]) =
      (List.range' k (last + 1 - (k + 1))).map fun row =>
        scope.argument [Token.operand (Reference.cell column (row + 1)).toText] := by
    rw [Token.cells, List.range'_succ_left, List.map_map, List.map_map]
    rfl
  rw [cells]
  refine h.success_foldlM fun row mem => ?_
  have within := List.mem_range'_1.1 mem
  have isRow : Reference.IsRow (row + 1) := ⟨by omega, by omega⟩
  have shown : scope.sheet.resolveCell column (row + 1) = .ok (scope.sheet.shown i row) := by
    simp only [Sheet.resolveCell, target, Except.ok_bind]
    rfl
  refine success_contribution_cell ?_ ?_ shown
  · rw [Reference.toText, nameable.operand]
    rfl
  · rw [Token.text_operand]
    exact nameable.read isRow

/-- Where blanks are around the number in a cell, the cells of a span cannot be added one by one. -/
theorem Adds.success_cells_eq_none (h : scope.Adds function add step) {row : Nat} {text : Text}
    (covered : (Reference.span column (some first) (some last)).Covers row)
    (shown : scope.sheet.shown i row = some text) (padded : Number.IsPadded text) (acc : σ) :
    (((Token.cells column first last).map fun cell => scope.argument [cell]).foldlM
      step acc).success = pure none := by
  have mem : row ∈ List.range' (first - 1) (last + 1 - first) := by
    have lower : first ≤ row + 1 := covered.1
    have upper : row + 1 ≤ last := covered.2
    exact List.mem_range'_1.2 ⟨by omega, by omega⟩
  have failed : Cell.numbers? (scope.sheet.shown i row) = none := by
    rw [shown, Cell.numbers?, Number.read?_of_trim_ne padded.1, Option.map_none]
  rw [h.success_cells read nameable target, Option.mapM_eq_none mem failed, Option.map_none]

include range

/-- A span of an extra column adds what its cells add one by one, unless blanks are around the
number in one of them. -/
theorem Adds.success_span (h : scope.Adds function add step)
    (plain : ∀ row, (Reference.span column (some first) (some last)).Covers row →
      ∀ text ∈ scope.sheet.shown i row, ¬Number.IsPadded text) (acc : σ) :
    (step acc (scope.argument [t])).success =
      (((Token.cells column first last).map fun cell => scope.argument [cell]).foldlM
        step acc).success := by
  have texts : ((scope.sheet.populated i (.span column (some first) (some last))).mapM fun cell =>
      Number.readTrimmed? cell.2) = ((List.range' (first - 1) (last + 1 - first)).mapM fun row =>
        Cell.numbers? (scope.sheet.shown i row)).map List.flatten := by
    obtain ⟨valid, -, -⟩ := Reference.rows_of_read read
    have length : last + 1 - first = last - (first - 1) := by
      have : 1 ≤ first := valid
      omega
    rw [Sheet.populated_eq_populatedFrom, length]
    simp only [Sheet.shown_eq_getElem?] at plain ⊢
    refine mapM_populatedFrom fun row lower within => plain row ?_
    have after : first - 1 ≤ row := lower
    have before : row < first - 1 + (last - (first - 1)) := within
    exact ⟨show first ≤ row + 1 by omega, show row + 1 ≤ last by omega⟩
  rw [h acc _ _ (success_contribution_span range read target), texts,
    h.success_cells read nameable target, Option.map_map]
  rfl

/-! ## Calls -/

variable {name : Text} (set : name = "AVERAGE" ∨ ∃ f : Fold, name = f.toText)
  (before after : List Argument)

include set

/-- A span of an extra column may be replaced by its cells among the arguments of a set function,
unless blanks are around the number in one of them. -/
theorem success_call_span
    (plain : ∀ row, (Reference.span column (some first) (some last)).Covers row →
      ∀ text ∈ scope.sheet.shown i row, ¬Number.IsPadded text) :
    (scope.call name (before ++ scope.argument [t] :: after)).success =
      (scope.call name (before ++
        (Token.cells column first last).map (fun cell => scope.argument [cell]) ++ after)).success := by
  have steps {σ : Type} {add : σ → Float → σ} {step : σ → Argument → Action σ} {function : Text}
      (h : scope.Adds function add step) (acc : σ) :=
    success_foldlM_replace (h.success_span range read nameable target plain) before after acc
  obtain rfl | ⟨f, rfl⟩ := set
  · exact success_bind_congr (steps scope.adds_averageArgument {}) fun _ => rfl
  · cases f <;> exact success_bind_congr (steps (scope.adds_foldArgument _) none) fun _ => rfl

omit range

/-- Where blanks are around the number in a cell, the call with the cells fails. -/
theorem neverSucceeds_call_cells {row : Nat} {text : Text}
    (covered : (Reference.span column (some first) (some last)).Covers row)
    (shown : scope.sheet.shown i row = some text) (padded : Number.IsPadded text) :
    (scope.call name (before ++
      (Token.cells column first last).map (fun cell => scope.argument [cell]) ++
        after)).NeverSucceeds := by
  have steps {σ : Type} {add : σ → Float → σ} {step : σ → Argument → Action σ} {function : Text}
      (h : scope.Adds function add step) (acc : σ) : ((before ++
        (Token.cells column first last).map (fun cell => scope.argument [cell]) ++ after).foldlM
          step acc).NeverSucceeds := by
    rw [List.append_assoc, List.foldlM_append]
    refine neverSucceeds_bind _ fun acc => ?_
    rw [List.foldlM_append]
    have failed := h.success_cells_eq_none read nameable target covered shown padded acc
    exact (neverSucceeds_of_success failed).bind _
  obtain rfl | ⟨f, rfl⟩ := set
  · exact (steps scope.adds_averageArgument {}).bind _
  · cases f <;> exact (steps (scope.adds_foldArgument _) none).bind _

end Span

end Scope

end JoinSheet
