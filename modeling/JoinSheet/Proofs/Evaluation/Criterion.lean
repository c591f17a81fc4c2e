import JoinSheet.Proofs.Evaluation.Conditional
import JoinSheet.Proofs.Number.Reading
import JoinSheet.Proofs.Sql.Letter

/-!
# Words as criteria

A criterion without an operator selects the texts that are equal to it. One operator is spelled like
a word, though, and it is looked for at the start of every criterion. So a word that starts with it,
in any letter case, is a pattern: it selects the texts that spell the rest of the word.

## Main definitions

* `Text.IsWord` — texts of letters only.

## Main statements

* `CellCriterion.read_of_isWord` — the criterion that a word spells.
* `Scope.evaluate_countIf_word` — what a word counts.
-/

namespace JoinSheet

/-! ## Letters -/

theorem not_isBlank_of_isAlpha {c : Char} (h : c.isAlpha) : isBlank c = false := by
  have letter := isAlpha_iff.1 h
  simp [isBlank]
  omega

namespace Text

variable {t : Text}

theorem trim_of_letters (letters : ∀ c ∈ t, c.isAlpha) : t.trim = t :=
  trim_eq_of_forall fun c mem => not_isBlank_of_isAlpha (letters c mem)

theorem not_mem_of_letters {c : Char} (other : c.isAlpha = false)
    (letters : ∀ c ∈ t, c.isAlpha) : c ∉ t := by
  intro mem
  have letter := letters c mem
  rw [other] at letter
  cases letter

end Text

namespace Numeral

variable {t : Text}

theorem fixedPoint?_of_letters (letters : ∀ c ∈ t, c.isAlpha) : fixedPoint? t = none := by
  rw [fixedPoint?, Text.cut?_eq_none.2 (Text.not_mem_of_letters rfl letters),
    Option.map_eq_none_iff, ← Option.not_isSome_iff_eq_none, Text.isSome_toNat?]
  rintro ⟨written, digits⟩
  obtain ⟨c, t, rfl⟩ := List.exists_cons_of_ne_nil written
  have letter := isAlpha_iff.1 (letters c List.mem_cons_self)
  have digit := digits c List.mem_cons_self
  simp [Char.isDigit, UInt32.le_iff_toNat_le] at digit
  omega

/-- Letters alone are no number, not even with the letter of an exponent among them. -/
theorem ofText?_of_letters (letters : ∀ c ∈ t, c.isAlpha) : ofText? t = none := by
  have unsigned : ∀ c ∈ t.head?, ¬(c = '+' ∨ c = '-') := by
    intro c first
    have mem := List.mem_of_mem_head? first
    rintro (rfl | rfl) <;> exact Text.not_mem_of_letters rfl letters mem
  rw [ofText?_of_head? unsigned, Option.map_eq_none_iff]
  obtain plain | ⟨stem, c, power, rfl, plain, letter⟩ := exists_exponent t
  · rw [magnitude?_of_forall plain, fixedPoint?_of_letters letters, Option.map_none]
  · have stem := (List.forall_mem_append.1 letters).1
    rw [magnitude?_append_cons plain letter, fixedPoint?_of_letters stem]
    rfl

end Numeral

/-! ## Criteria -/

/-- A word consists of letters, at least one of them. -/
structure Text.IsWord (t : Text) : Prop where
  written : t ≠ []
  letters : ∀ c ∈ t, c.isAlpha

section Word

variable {w : Text} (word : w.IsWord)

include word

/-- The only operator that a word can start with is the one that is spelled with letters. -/
theorem Comparison.split?_of_isWord : Comparison.split? w =
    if Text.eqIgnoringCase (w.take 4) "LIKE" then some (.like, w.drop 4) else none := by
  obtain ⟨c, t, rfl⟩ := List.exists_cons_of_ne_nil word.written
  have letter := isAlpha_iff.1 (word.letters c List.mem_cons_self)
  have differs {d : Char} (other : d.toNat < 65) (t u : Text) (same : d.toLower = d) :
      Text.eqIgnoringCase (c :: t) (d :: u) = false := by
    rw [Text.eqIgnoringCase, beq_eq_false_iff_ne]
    intro equal
    have lower := Text.toNat_toLower c
    have first : c.toLower = d.toLower := (List.cons.inj equal).1
    rw [first, same] at lower
    split at lower <;> omega
  have misses (op : Comparison) (symbol : op ≠ .like) :
      Text.eqIgnoringCase ((c :: t).take op.toText.length) op.toText = false := by
    cases op with
    | like => exact absurd rfl symbol
    | eq | lt | le | gt | ge => exact differs (by decide) _ _ rfl
  have length : like.toText.length = 4 := rfl
  change _ = if Text.eqIgnoringCase ((c :: t).take 4) like.toText then _ else _
  unfold split? all
  have le := misses .le (by decide)
  have ge := misses .ge (by decide)
  have eq := misses .eq (by decide)
  have lt := misses .lt (by decide)
  have gt := misses .gt (by decide)
  simp only [List.findSome?_cons, le, ge, eq, lt, gt, length, List.findSome?_nil]
  cases Text.eqIgnoringCase ((c :: t).take 4) like.toText <;> rfl

omit word

/-- Letters are an operand as they are. -/
theorem CellCriterion.operand_of_letters {t : Text} (letters : ∀ c ∈ t, c.isAlpha) :
    t.trim = t ∧ (t.head?.any fun c => c = '<' || c = '>' || c = '=') = false := by
  refine ⟨Text.trim_of_letters letters, ?_⟩
  cases t with
  | nil => rfl
  | cons c t =>
    have differs {d : Char} (other : d.isAlpha = false) : c ≠ d :=
      ne_of_mem_of_not_mem List.mem_cons_self (Text.not_mem_of_letters other letters)
    simp [differs]

include word

/-- A word is compared for equality, or it is a pattern if it starts with that operator. -/
theorem CellCriterion.read_of_isWord : CellCriterion.read w =
    if Text.eqIgnoringCase (w.take 4) "LIKE" then .ok ⟨.like, w.drop 4⟩ else .ok ⟨.eq, w⟩ := by
  obtain ⟨trimmed, notOperator⟩ := operand_of_letters word.letters
  obtain ⟨restTrimmed, restNotOperator⟩ := operand_of_letters (t := w.drop 4) fun c mem =>
    word.letters c (List.mem_of_mem_drop mem)
  unfold read
  simp only [trimmed, Comparison.split?_of_isWord word]
  split
  · simp only [Option.getD_some, restTrimmed, restNotOperator]
    rfl
  · simp only [Option.getD_none, trimmed, notOperator]
    rfl

end Word

/-- A word that is compared for equality selects the texts that are equal to it. -/
theorem CellCriterion.holds_eq_of_letters {w : Text} (letters : ∀ c ∈ w, c.isAlpha) (t : Text) :
    CellCriterion.holds ⟨.eq, w⟩ t = (t == w) := by
  have noNumber : Number.readTrimmed? w = none := by
    rw [Number.readTrimmed?, Text.trim_of_letters letters, Number.read?,
      Numeral.ofText?_of_letters letters, Option.map_none]
  simp only [holds, noNumber]
  rfl

theorem CellCriterion.holds_like_of_letters {w : Text} (letters : ∀ c ∈ w, c.isAlpha) (t : Text) :
    CellCriterion.holds ⟨.like, w⟩ t = t.eqIgnoringCase w :=
  Like.isMatch_of_letters letters t

/-! ## Counting -/

namespace Scope

open JoinSheet.Action

section Count

variable {scope : Scope} {name : Text} {range criterion : List Token} {r : Reference} {i : Nat}
  {σ : Type} {server : Server σ} {d : σ} {u : Token} (named : name.upper = "COUNTIF")
  (isRange : IsRange range r) (isBranch : IsBranch criterion)
  (target : scope.sheet.resolveColumn r.column = .ok (.extra i))
  (value : (scope.evaluate criterion).result server d = .ok u)

include named isRange isBranch target value

/-- The cells of the range that meet the criterion are counted. -/
theorem result_countIf {c : CellCriterion} (read : CellCriterion.read u.textValue = .ok c) :
    (scope.evaluate (Token.callOf name [range, criterion])).result server d =
      .ok (.ofNumber (.ofNat (scope.sheet.rowsShowing i r c.holds).length)) := by
  have same : aligned r r = true := (aligned_iff isRange isRange).2 fun _ => Iff.rfl
  have given : (none : Option (List Token)).elim (r = r) (IsRange · r) := rfl
  have named : name.upper = Conditional.countIf.toText := named
  exact Except.toOption_eq_some.1 (toOption_result_conditional named (fun _ => rfl) isRange
    isBranch given same target target value read)

/-- A word counts the cells that show exactly the word, unless it starts with the operator that is
spelled with letters: then it counts the cells that show the rest of the word, in any letter
case. -/
theorem evaluate_countIf_word (word : u.textValue.IsWord) :
    let rows := scope.sheet.rowsShowing i r <|
      if Text.eqIgnoringCase (u.textValue.take 4) "LIKE" then
        fun t => t.eqIgnoringCase (u.textValue.drop 4)
      else fun t => t == u.textValue
    (scope.evaluate (Token.callOf name [range, criterion])).result server d =
      .ok (.ofNumber (.ofNat rows.length)) := by
  intro rows
  have counted {c : CellCriterion} (read : CellCriterion.read u.textValue = .ok c) :=
    result_countIf named isRange isBranch target value read
  have read := CellCriterion.read_of_isWord word
  dsimp only [rows]
  split at read
  next starts =>
    have rest : ∀ c ∈ u.textValue.drop 4, c.isAlpha := fun c mem =>
      word.letters c (List.mem_of_mem_drop mem)
    rw [counted read, if_pos starts, funext (CellCriterion.holds_like_of_letters rest)]
  next plain =>
    rw [counted read, if_neg plain, funext (CellCriterion.holds_eq_of_letters word.letters)]

end Count

/-- A word that does not start with an operator counts the cells that show it. -/
theorem evaluate_countIf_word_cat :
    let cells : List FormulaCell :=
      [{ value := some "cat" }, {}, { value := some "Cat" }, { value := some "cat" }]
    let scope : Scope := ⟨{ Sheet.ofTable ⟨"s", "t"⟩ {} with extras := [⟨"A", cells⟩] }, none⟩
    let server := Server.absent
    let range := [Token.operand "A:A"]
    let word := Token.operand ['"', 'c', 'a', 't', '"']
    IsRange range (.span "A" none none) ∧ IsBranch [word] ∧ word.textValue.IsWord ∧
      (scope.evaluate (Token.callOf "CountIf" [range, [word]])).result server () =
        .ok (.ofNumber 2.0) := by
  intro cells scope server range word
  have operand (t : Text) : IsBranch [Token.operand t] := (isComparand_operand t).isBranch
  have isRange : IsRange range (.span "A" none none) := ⟨operand _, rfl⟩
  have isWord : word.textValue.IsWord := ⟨by decide, List.all_eq_true.1 (by decide)⟩
  have value : (scope.evaluate [word]).result server () = .ok word := rfl
  have named : Text.upper "CountIf" = "COUNTIF" := rfl
  have counted := evaluate_countIf_word named isRange (operand _) rfl value isWord
  refine ⟨isRange, operand _, isWord, counted.trans (congrArg (Except.ok ∘ Token.ofNumber) ?_)⟩
  decide +kernel

/-- A word that starts with an operator does not count the cell that shows it. -/
theorem not_countIf_likely :
    let scope : Scope := ⟨{ Sheet.ofTable ⟨"s", "t"⟩ {} with extras :=
      [⟨"A", [{ value := some "likely" }]⟩] }, none⟩
    let server := Server.absent
    let range := [Token.operand "A1:A1"]
    let word := Token.operand ['"', 'l', 'i', 'k', 'e', 'l', 'y', '"']
    IsRange range (.span "A" (some 1) (some 1)) ∧ IsBranch [word] ∧ word.textValue.IsWord ∧
      scope.sheet.rowsShowing 0 (.span "A" (some 1) (some 1)) (· == word.textValue) = [0] ∧
      (scope.evaluate (Token.callOf "COUNTIF" [range, [word]])).result server () =
        .ok (.ofNumber 0.0) := by
  intro scope server range word
  have operand (t : Text) : IsBranch [Token.operand t] := (isComparand_operand t).isBranch
  have isRange : IsRange range (.span "A" (some 1) (some 1)) := ⟨operand _, rfl⟩
  have isWord : word.textValue.IsWord := ⟨by decide, List.all_eq_true.1 (by decide)⟩
  have value : (scope.evaluate [word]).result server () = .ok word := rfl
  have named : Text.upper "COUNTIF" = "COUNTIF" := rfl
  have read : CellCriterion.read word.textValue = .ok ⟨.like, "ly"⟩ := by decide +kernel
  have counted := result_countIf named isRange (operand _) rfl value read
  have letters : ∀ c ∈ ("ly" : Text), c.isAlpha := List.all_eq_true.1 (by decide)
  rw [funext (CellCriterion.holds_like_of_letters letters)] at counted
  refine ⟨isRange, operand _, isWord, by decide +kernel,
    counted.trans (congrArg (Except.ok ∘ Token.ofNumber) ?_)⟩
  decide +kernel

end Scope

end JoinSheet
