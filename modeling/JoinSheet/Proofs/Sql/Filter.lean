import JoinSheet.Proofs.Sql.Constant

/-!
# Filters and clauses

A filter is one text, an operator and an operand behind it, and a clause is given the two apart. The
operator at the start of a filter is looked for among all of them, so a shorter one is found only if
the text does not go on to a longer one. Blanks between operator and operand keep them apart. Where
nothing runs together, filters and clauses are the same conditions.

## Main definitions

* `Clause.RunsTogether` — an operator and an operand that are read as a longer operator.

## Main statements

* `Comparison.split?_append` — the operator that a text starts with.
* `Comparison.read_of_eqIgnoringCase` — the operator that a text is.
* `Clause.ofFilter_agrees` — a filter is read as the clause of its parts.
-/

namespace JoinSheet

/-! ## Trimmed texts -/

namespace Text

variable {t u : Text}

theorem trim_trim (t : Text) : t.trim.trim = t.trim := by
  obtain ⟨before, after, whole, blank⟩ := t.exists_blanks
  have trimmed := trim_append_append blank t.trim
  rwa [← whole, eq_comm] at trimmed

theorem isBlank_of_mem_trailing {x : Char} (h : x ∈ t.trailing isBlank) : isBlank x := by
  rw [trailing, List.mem_reverse] at h
  exact List.all_eq_true.1 List.all_takeWhile x h

theorem trim_dropTrailing (t : Text) : trim (t.dropTrailing isBlank) = t.trim := by
  have blank : ∀ x ∈ [] ++ t.trailing isBlank, isBlank x := fun _ => isBlank_of_mem_trailing
  have trimmed := trim_append_append blank (t.dropTrailing isBlank)
  rwa [List.nil_append, dropTrailing_append_trailing, eq_comm] at trimmed

/-- Behind a text without blanks, trimming cuts only the end. -/
theorem trim_append_of_forall (written : t ≠ []) (h : ∀ x ∈ t, isBlank x = false) (u : Text) :
    (t ++ u).trim = t ++ u.dropTrailing isBlank := by
  have start {l : Text} (written : l ≠ []) (h : ∀ x ∈ l, isBlank x = false) (rest : Text) :
      (l ++ rest).dropWhile isBlank = l ++ rest := by
    obtain ⟨x, l, rfl⟩ := List.exists_cons_of_ne_nil written
    rw [List.cons_append, List.dropWhile_cons_of_neg (by simp [h x])]
  have last : t.reverse.dropWhile isBlank = t.reverse := by
    have kept := start (l := t.reverse) (by simpa using written) (by simpa using h) []
    rwa [List.append_nil] at kept
  rw [trim, start written h, dropTrailing, List.reverse_append, List.dropWhile_append]
  split
  next none =>
    rw [last, List.reverse_reverse, dropTrailing, List.isEmpty_iff.1 none, List.reverse_nil,
      List.append_nil]
  next => rw [List.reverse_append, List.reverse_reverse, dropTrailing]

theorem eqIgnoringCase_iff : eqIgnoringCase t u ↔ t.lower = u.lower := beq_iff_eq

theorem lower_append (t u : Text) : (t ++ u).lower = t.lower ++ u.lower := List.map_append

theorem lower_take (n : Nat) (t : Text) : lower (t.take n) = t.lower.take n := List.map_take

/-- Letter case makes no difference to blanks. -/
theorem isBlank_toLower (x : Char) : isBlank x.toLower = isBlank x := by
  have lower := toNat_toLower x
  unfold isBlank
  split at lower
  · grind
  · rw [lower]

theorem head?_of_take_lower (h : t.lower.take 1 = ['=']) : t.head? = some '=' := by
  obtain _ | ⟨x, t⟩ := t
  · cases h
  · have lower := toNat_toLower x
    have sign : x.toLower = '=' := by simpa [Text.lower] using h
    have code : ('=' : Char).toNat = 61 := rfl
    rw [sign] at lower
    split at lower
    · omega
    · rw [List.head?_cons, ← Char.toNat_inj.1 lower]

end Text

/-! ## Operators -/

namespace Comparison

variable {c : Comparison} {operator rest : Text}

theorem lower_toText_injective : Function.Injective fun c : Comparison => c.toText.lower := by
  intro c d same
  cases c <;> cases d <;> revert same <;> decide

section Spelled

variable (spelled : operator.eqIgnoringCase c.toText)

include spelled

theorem ne_nil_of_eqIgnoringCase : operator ≠ [] := by
  rintro rfl
  cases c <;> cases spelled

theorem isBlank_of_eqIgnoringCase : ∀ x ∈ operator, isBlank x = false := by
  intro x mem
  have written : c.toText.lower.all fun y => !isBlank y := by cases c <;> decide
  have among : x.toLower ∈ c.toText.lower := by
    rw [← Text.eqIgnoringCase_iff.1 spelled]
    exact List.mem_map_of_mem mem
  rw [← Text.isBlank_toLower]
  simpa using List.all_eq_true.1 written _ among

/-- The operator that a text starts with is found unless the text goes on to a longer one. -/
theorem split?_append (apart : c = .lt ∨ c = .gt → rest.head? ≠ some '=') :
    split? (operator ++ rest) = some (c, rest) := by
  have same := Text.eqIgnoringCase_iff.1 spelled
  have length : operator.length = c.toText.length := by
    simpa [Text.lower] using congrArg List.length same
  have starts (other : Comparison) :
      Text.eqIgnoringCase ((operator ++ rest).take other.toText.length) other.toText ↔
        (c.toText.lower ++ rest.lower).take other.toText.length = other.toText.lower := by
    rw [Text.eqIgnoringCase_iff, Text.lower_take, Text.lower_append, same]
  -- Of the operators that are tried first, only the longer ones of `<` and `>` start like `c`.
  have misses : ∀ other ∈ all.takeWhile (· ≠ c),
      (c.toText.lower ++ rest.lower).take other.toText.length ≠ other.toText.lower := by
    intro other earlier
    cases c <;> cases other <;> first
      | exact absurd earlier (by decide)
      | simp [toText, Text.lower]
    case lt.le => exact fun next => apart (.inl rfl) (Text.head?_of_take_lower next)
    case gt.ge => exact fun next => apart (.inr rfl) (Text.head?_of_take_lower next)
  have order : all = all.takeWhile (· ≠ c) ++ c :: (all.dropWhile (· ≠ c)).tail := by
    cases c <;> rfl
  refine List.findSome?_eq_some_iff.2 ⟨_, c, _, order, ?_, fun other earlier => ?_⟩
  · have own : (c.toText.lower ++ rest.lower).take c.toText.length = c.toText.lower := by
      simp [Text.lower]
    rw [if_pos ((starts c).2 own), ← length, List.drop_left]
  · exact if_neg fun found => misses other earlier ((starts other).1 found)

theorem read_of_eqIgnoringCase : read operator = .ok c := by
  have found : read? operator = some c := by
    have only (other : Comparison) : other.toText.eqIgnoringCase operator = decide (other = c) := by
      rw [Bool.eq_iff_iff, Text.eqIgnoringCase_iff, Text.eqIgnoringCase_iff.1 spelled,
        decide_eq_true_iff]
      exact lower_toText_injective.eq_iff
    simp only [read?, Text.trim_eq_of_forall (isBlank_of_eqIgnoringCase spelled), only]
    cases c <;> rfl
  rw [read, found]

end Spelled

end Comparison

/-! ## Operands -/

namespace Operand

variable {raw raw' : Text}

/-- Blanks around an operand do not matter. -/
theorem read_congr (h : raw.trim = raw'.trim) : read raw = read raw' := by
  unfold read
  rw [h]

theorem read_of_trim_eq_nil (h : raw.trim = []) : ∀ o, read raw ≠ .ok o := by
  intro o found
  have nothing : isConstant [] = false := by
    rw [← Bool.not_eq_true]
    exact fun constant => Constant.trim_ne_nil constant rfl
  rw [read, h, dif_neg (by simp [nothing])] at found
  cases found

end Operand

/-! ## Filters -/

namespace Clause

variable {c : Comparison} {operator blanks right : Text}

/-- Two sides make a clause if both of them are read. -/
theorem sides_eq_ok (c : Comparison) (left right : Text) {clause : Clause} :
    (do
      let l ← Operand.read left
      let r ← Operand.read right
      return ⟨l, c, r⟩) = Except.ok clause ↔
      ∃ l r, Operand.read left = .ok l ∧ Operand.read right = .ok r ∧ clause = ⟨l, c, r⟩ := by
  simp only [Except.bind_eq_ok]
  constructor
  · rintro ⟨l, hl, r, hr, h⟩
    cases h
    exact ⟨l, r, hl, hr, rfl⟩
  · rintro ⟨l, r, hl, hr, rfl⟩
    exact ⟨l, hl, r, hr, rfl⟩

theorem read_eq_ok (spelled : operator.eqIgnoringCase c.toText) (left right : Text)
    {clause : Clause} : read left operator right = .ok clause ↔
      ∃ l r, Operand.read left = .ok l ∧ Operand.read right = .ok r ∧ clause = ⟨l, c, r⟩ := by
  rw [read, Comparison.read_of_eqIgnoringCase spelled, Except.ok_bind]
  exact sides_eq_ok c left right

/-- The operand starts with the sign that makes a longer operator of the one directly before it. -/
def RunsTogether (c : Comparison) (blanks right : Text) : Prop :=
  blanks = [] ∧ (c = .lt ∨ c = .gt) ∧ right.head? = some '='

/-- A trimmed filter still starts with its operator, with all of the operand behind it. -/
theorem exists_trim_eq (spelled : operator.eqIgnoringCase c.toText)
    (blank : ∀ x ∈ blanks, isBlank x) (apart : ¬RunsTogether c blanks right) :
    ∃ rest : Text, (operator ++ blanks ++ right).trim = operator ++ rest ∧
      rest.trim = right.trim ∧ (c = .lt ∨ c = .gt → rest.head? ≠ some '=') := by
  refine ⟨(blanks ++ right).dropTrailing isBlank, ?_, ?_, fun short starts => ?_⟩
  · rw [List.append_assoc]
    exact Text.trim_append_of_forall (Comparison.ne_nil_of_eqIgnoringCase spelled)
      (Comparison.isBlank_of_eqIgnoringCase spelled) _
  · rw [Text.trim_dropTrailing, ← List.append_nil (blanks ++ right)]
    exact Text.trim_append_append (by simpa using blank) right
  · have whole := (blanks ++ right).dropTrailing_append_trailing isBlank
    obtain ⟨later, found⟩ := List.head?_eq_some_iff.1 starts
    rw [found, List.cons_append] at whole
    cases blanks with
    | nil => exact apart ⟨rfl, short, by rw [← List.nil_append right, ← whole, List.head?_cons]⟩
    | cons x blanks =>
      obtain ⟨rfl, -⟩ := List.cons_eq_cons.1 whole
      exact absurd (blank _ List.mem_cons_self) (by decide)

/-- A filter is read if the sides around its operator are. -/
theorem ofFilter_eq_ok (spelled : operator.eqIgnoringCase c.toText)
    (blank : ∀ x ∈ blanks, isBlank x) (apart : ¬RunsTogether c blanks right) (left : Text)
    {clause : Clause} : ofFilter left (operator ++ blanks ++ right) = .ok clause ↔
      ∃ l r, Operand.read left = .ok l ∧ Operand.read right = .ok r ∧ clause = ⟨l, c, r⟩ := by
  obtain ⟨rest, trimmed, same, next⟩ := exists_trim_eq spelled blank apart
  unfold ofFilter
  simp only [trimmed, Comparison.split?_append spelled next]
  split
  next empty =>
    rw [same] at empty
    constructor
    · nofun
    · rintro ⟨l, r, -, read, -⟩
      exact absurd read (Operand.read_of_trim_eq_nil empty r)
  next =>
    have operand : Operand.read rest.trim = Operand.read right :=
      Operand.read_congr (by rw [Text.trim_trim, same])
    rw [operand]
    exact sides_eq_ok c left right

/-- A filter is the clause of its operator and its operand, whatever blanks stand between them. Both
are refused unless the two sides are operands. Only `<` and `>` directly before a `=` are not read
as such. -/
theorem ofFilter_agrees (c : Comparison) {operator blanks right : Text} (left : Text)
    (spelled : operator.eqIgnoringCase c.toText) (blank : ∀ x ∈ blanks, isBlank x)
    (apart : ¬RunsTogether c blanks right) :
    (∃ l r sql, Operand.read left = .ok l ∧ Operand.read right = .ok r ∧
      sql = l.render ++ ' ' :: c.toText ++ ' ' :: r.render ∧
      (ofFilter left (operator ++ blanks ++ right)).map render = .ok sql ∧
      (read left operator right).map render = .ok sql) ∨
    (¬∃ l r, Operand.read left = .ok l ∧ Operand.read right = .ok r) ∧
      (∃ e, ofFilter left (operator ++ blanks ++ right) = .error e) ∧
      ∃ e, read left operator right = .error e := by
  by_cases sides : ∃ l r, Operand.read left = .ok l ∧ Operand.read right = .ok r
  · obtain ⟨l, r, hl, hr⟩ := sides
    have filtered := (ofFilter_eq_ok spelled blank apart left).2 ⟨l, r, hl, hr, rfl⟩
    have given := (read_eq_ok spelled left right).2 ⟨l, r, hl, hr, rfl⟩
    rw [filtered, given]
    exact .inl ⟨l, r, _, hl, hr, rfl, rfl, rfl⟩
  · refine .inr ⟨sides, Except.exists_eq_error.2 ?_, Except.exists_eq_error.2 ?_⟩
    · rintro ⟨_, read⟩
      obtain ⟨l, r, hl, hr, -⟩ := (ofFilter_eq_ok spelled blank apart left).1 read
      exact sides ⟨l, r, hl, hr⟩
    · rintro ⟨_, read⟩
      obtain ⟨l, r, hl, hr, -⟩ := (read_eq_ok spelled left right).1 read
      exact sides ⟨l, r, hl, hr⟩

/-- Behind a blank, a `=` belongs to the operand. -/
theorem ofFilter_agrees_blank :
    Text.eqIgnoringCase "<" Comparison.lt.toText ∧ (∀ x ∈ " ".toList, isBlank x) ∧
      ¬RunsTogether .lt " " "=b" ∧
      (ofFilter "a" ("<".toList ++ " ".toList ++ "=b".toList)).map render = .ok "\"a\" < \"=b\"" ∧
      (read "a" "<" "=b").map render = .ok "\"a\" < \"=b\"" := by
  have spelled : Text.eqIgnoringCase "<" Comparison.lt.toText := by decide
  have blank : ∀ x ∈ " ".toList, isBlank x := List.all_eq_true.1 (by decide)
  have apart : ¬RunsTogether .lt " " "=b" := fun together => absurd together.1 (by decide)
  have given : (read "a" "<" "=b").map render = .ok "\"a\" < \"=b\"" := by decide +kernel
  refine ⟨spelled, blank, apart, ?_, given⟩
  obtain ⟨_, _, sql, -, -, -, filtered, same⟩ | ⟨-, -, e, refused⟩ :=
    ofFilter_agrees .lt "a" spelled blank apart
  · rw [filtered, ← same, given]
  · rw [refused] at given
    cases given

/-- Without the blank it belongs to the operator. -/
example : (ofFilter "a" "<=b").map render = .ok "\"a\" <= \"b\"" := by decide +kernel

end Clause

end JoinSheet
