import JoinSheet.Proofs.Evaluation.SetFunction
import JoinSheet.Proofs.Formula.Exchange
import JoinSheet.Proofs.Sheet.Reachable
import JoinSheet.Proofs.Sheet.Values

/-!
# Spans and their cells

A set function has the same value for a span of an extra column as for the cells of the span one by
one, whatever the other arguments are, as long as no cell shows a number with blanks around it. Such
a cell is a number for the span alone.

## Main statements

* `Sheet.valueToken_cells` — a span written cell by cell.
* `Sheet.sum_padded` — a cell for which the two differ.
-/

namespace JoinSheet

open Lexeme

theorem Token.isOperand_operand (t : Text) : (operand t).IsOperand :=
  ⟨by simp [isValue], Formula.isOpening_operand t, Formula.isClosing_operand t⟩

theorem Token.isOperand_of_isRange {t : Token} (h : t.isRange) : t.IsOperand := by
  obtain ⟨kind, role⟩ : t.kind = .operand ∧ t.role = .range := by simpa [isRange] using h
  simp [IsOperand, isValue, isOpening, isClosing, kind, role]

theorem Token.isOperand_of_mem_cells {column : Text} {first last : Nat} {t : Token}
    (h : t ∈ cells column first last) : t.IsOperand := by
  obtain ⟨row, -, rfl⟩ := List.mem_map.1 h
  exact isOperand_operand _

/-- A reference starts like the name of its column. -/
theorem Reference.head?_of_read {t column : Text} {first last : Option Nat}
    (h : read t = .ok (.span column first last)) : t.head? = column.head? := by
  cases spells_of_read h with
  | span named =>
    rw [List.append_assoc, List.head?_append_of_ne_nil _ named]

namespace Sheet

open JoinSheet.Action

section Span

variable {s : Sheet} {formula column : Text} {frame : CallFrame} {span : Token} {first last i : Nat}

/-- The formula in which a span is written cell by cell is read as such. -/
theorem scan_cells (scanned : s.scan formula = .ok (frame.fill [span])) (range : span.isRange)
    (read : Reference.read span.text = .ok (.span column (some first) (some last)))
    (nameable : Reference.Nameable column) :
    s.scan (Token.render s.settings.marker (frame.fill (Token.cells column first last))) =
      .ok (frame.fill (Token.cells column first last)) := by
  obtain ⟨-, ordered, -⟩ := Reference.rows_of_read read
  obtain ⟨n, length⟩ : ∃ n, last + 1 - first = n + 1 :=
    Nat.exists_eq_succ_of_ne_zero (by
      have : first ≤ last := ordered
      omega)
  have cells : (Token.cells column first last).map ([·]) =
      ((column ++ Text.ofNat first) ::
        (List.range' (first + 1) n).map fun row => column ++ Text.ofNat row).map fun w =>
          [Token.operand w] := by
    rw [Token.cells, length, List.range'_succ, List.map_cons, List.map_cons, List.map_cons,
      List.map_map, List.map_map]
    rfl
  have plainWord (row : Nat) : IsPlainWord (column ++ Text.ofNat row) :=
    ⟨nameable.isWord row, Reference.isExponentStem_append_digits column
      (Text.isDigits_ofNat row).written (Text.isDigits_ofNat row).all⟩
  have start : (column ++ Text.ofNat first).head? = span.text.head? := by
    rw [Reference.head?_of_read read, List.head?_append_of_ne_nil _ nameable.word.ne_nil]
  have front : Balanced (fun _ => True) frame.front :=
    CallFrame.balanced_front fun t mem => Formula.not_bracket_of_blank scanned t (by
      simp [CallFrame.fill, CallFrame.front, mem])
  rw [CallFrame.fill, List.map_singleton, List.intercalate_singleton] at scanned
  have words : ∀ w ∈ (column ++ Text.ofNat first) ::
      (List.range' (first + 1) n).map (fun row => column ++ Text.ofNat row), IsPlainWord w :=
    List.forall_mem_cons.2 ⟨plainWord first, List.forall_mem_map.2 fun row _ => plainWord row⟩
  have exchanged := Formula.scan_render_words scanned rfl rfl front range words start
  rw [← cells] at exchanged
  exact exchanged

theorem valueToken_fill (connection : Option Dialect) {ts : List Token}
    (scanned : s.scan formula = .ok (frame.fill ts)) (written : ts ≠ [])
    (operands : ∀ t ∈ ts, t.IsOperand) :
    s.valueToken connection formula = (do
      let v ← Scope.call ⟨s, connection⟩ frame.name.upper
        ((frame.parts ts).map (Scope.argument ⟨s, connection⟩))
      Scope.operand ⟨s, connection⟩ v) := by
  rw [valueToken, scanned, liftM_ok_bind]
  exact CallFrame.evaluate_fill _ written operands (Formula.not_bracket_of_blank scanned)

/-- A call of a set function in which a span of an extra column is written cell by cell is read as
such. It has a result if and only if the call with the span has one, and the same one, unless a cell
of the span shows a number with blanks around it. Then it has none. -/
theorem valueToken_cells (connection : Option Dialect)
    (set : frame.name.upper = "AVERAGE" ∨ ∃ f : Fold, frame.name.upper = f.toText)
    (scanned : s.scan formula = .ok (frame.fill [span])) (range : span.isRange)
    (read : Reference.read span.text = .ok (.span column (some first) (some last)))
    (nameable : Reference.Nameable column) (target : s.resolveColumn column = .ok (.extra i)) :
    let cells := frame.fill (Token.cells column first last)
    let apart := Token.render s.settings.marker cells
    s.scan apart = .ok cells ∧
    ((∀ row, first ≤ row + 1 → row + 1 ≤ last → ∀ t ∈ s.shown i row, ¬Number.IsPadded t) →
      ∀ {σ : Type} (server : Server σ) (d : σ),
        ((s.valueToken connection formula).result server d).toOption =
          ((s.valueToken connection apart).result server d).toOption) ∧
    ∀ row t, first ≤ row + 1 → row + 1 ≤ last → s.shown i row = some t → Number.IsPadded t →
      (s.valueToken connection apart).NeverSucceeds := by
  intro cells apart
  have scannedCells := scan_cells scanned range read nameable
  obtain ⟨-, ordered, -⟩ := Reference.rows_of_read read
  have written : Token.cells column first last ≠ [] := by
    have : first ≤ last := ordered
    simp only [Token.cells, ne_eq, List.map_eq_nil_iff, List.range'_eq_nil_iff]
    omega
  have whole := valueToken_fill connection scanned (by simp)
    (List.forall_mem_singleton.2 (Token.isOperand_of_isRange range))
  have single := valueToken_fill connection scannedCells written
    fun _ => Token.isOperand_of_mem_cells
  rw [CallFrame.map_parts] at whole single
  rw [List.map_singleton, List.append_assoc, List.singleton_append] at whole
  refine ⟨scannedCells, fun plain σ server d => ?_, fun row t lower upper shown padded => ?_⟩
  · refine toOption_result_eq server d ?_
    rw [whole, single]
    refine success_bind_congr ?_ fun _ => rfl
    exact Scope.success_call_span range read nameable target set _ _
      fun row covered => plain row covered.1 covered.2
  · rw [single]
    exact (Scope.neverSucceeds_call_cells read nameable target set _ _
      ⟨lower, upper⟩ shown padded).bind _

end Span

/-- A span with an absent cell, blanks around it, and an argument on either side. -/
theorem valueToken_cells_sum :
    let server := Server.absent
    let blank := Sheet.ofTable ⟨"s", "t"⟩ {}
    let s := { blank with extras := [⟨"A", [⟨some "1", "1"⟩, {}, ⟨some "2.5", "2.5"⟩]⟩] }
    let whole := (s.valueToken none "=SUM(2, A1:A3 ,-A1)").result server ()
    let apart := (s.valueToken none "=SUM(2, A1,A2,A3 ,-A1)").result server ()
    whole.toOption = apart.toOption ∧ apart.toOption.isSome := by
  intro server blank s whole apart
  let space : Token := ⟨.blank, .plain, " ", none⟩
  let frame : CallFrame := {
    name := "SUM"
    before := [[Token.operand "2"]]
    lead := [space]
    trail := [space]
    after := [[Sign.minus.token, Token.operand "A1"]]
    isArgument := by
      have operand (t : Text) : IsArgument [Token.operand t] :=
        have isOperand := Token.isOperand_operand t
        .token isOperand.isPart.2 isOperand.2.1 isOperand.2.2 .nil
      simp only [List.singleton_append, List.forall_mem_cons]
      exact ⟨operand "2", .token nofun nofun nofun (operand "A1"), nofun⟩
    blank := by simp [space] }
  have scanned : s.scan "=SUM(2, A1:A3 ,-A1)" = .ok (frame.fill [Token.operand "A1:A3"]) := rfl
  obtain ⟨-, agree, -⟩ := valueToken_cells none (.inr ⟨.sum, rfl⟩) scanned (by decide +kernel)
    (by rfl : Reference.read (Token.operand "A1:A3").text = .ok (.span "A" (some 1) (some 3)))
    (by decide +kernel) (by rfl : s.resolveColumn "A" = .ok (.extra 0))
  have rendered : Token.render s.settings.marker (frame.fill (Token.cells "A" 1 3)) =
      "=SUM(2, A1,A2,A3 ,-A1)" := by decide +kernel
  refine ⟨?_, by decide +kernel⟩
  have trimmed : ∀ row < 3, ∀ t ∈ s.shown 0 row, t.trim = t := by decide +kernel
  have same := agree (fun row _ upper t shown padded => padded.1 (trimmed row upper t shown)) server ()
  rwa [rendered] at same

/-- Blanks around the number in a cell do not keep the cell out of a span, but out of a call by
itself. -/
theorem sum_padded :
    let server := Server.absent
    let noted := (Sheet.ofTable ⟨"s", "t"⟩ { extraRows := 1 }).afterAlone
      [.addColumn none, .setCell 0 0 " 5"]
    noted.Reachable ∧ noted.extras = [⟨"A", [⟨some " 5", " 5"⟩]⟩] ∧
      ((noted.valueToken none "=SUM(A1:A1)").result server ()).toOption.isSome ∧
      (noted.valueToken none "=SUM(A1)").result server () =
        .error (.eval (.notNumeric "SUM" " 5")) := by
  intro server noted
  exact ⟨(Reachable.start _ _).afterAlone _, by decide +kernel, by decide +kernel,
    by decide +kernel⟩

end Sheet

end JoinSheet
