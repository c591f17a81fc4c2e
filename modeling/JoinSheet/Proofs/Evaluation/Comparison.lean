import JoinSheet.Proofs.Evaluation.Expression
import JoinSheet.Proofs.Evaluation.WellFormed
import JoinSheet.Proofs.Number.Order

/-!
# Comparisons of values

The order of two values is that of the numbers they count as, and an absent value counts as zero.
Equality looks at the values themselves: a number is equal to numbers only, and truth values are
compared by how they are spelled. So the relations between two values fit together unless exactly
one of them is absent and the other is zero, and truth values that are spelled in different letter
cases are never equal.

## Main definitions

* `Relation.Ordered` — verdicts on the relations between two values that fit together.
* `Token.quantity?` — the number that a value counts as.
* `Token.OneAbsent` — an absent value beside a zero.
* `Text.SameCase` — texts in the same letter case.

## Main statements

* `ordered_of_compareValues`, `compareValues_oneAbsent` — the relations between two values.
* `equals_logical` — equality of truth values.
-/

namespace JoinSheet

/-- Exactly one of less, equal and greater holds, and the other relations say what they should. -/
structure Relation.Ordered (holds : Relation → Bool) : Prop where
  trichotomy : [holds .lt, holds .eq, holds .gt].count true = 1
  le : holds .le = (holds .lt || holds .eq)
  ge : holds .ge = (holds .gt || holds .eq)
  ne : holds .ne = !holds .eq

namespace Token

/-- The number that a value counts as where a number is needed. -/
def quantity? (t : Token) : Option Float := if t.role = .empty then some 0.0 else t.number

/-- The value is a double that is not a number. -/
def IsNaN (t : Token) : Prop := ∃ x, t.number = some x ∧ x.isNaN

/-- The value is a number that is equal to zero. -/
def IsZero (t : Token) : Prop := ∃ x, t.number = some x ∧ Number.compare? 0.0 x = some .eq

/-- One of the values is absent, and the other one is zero. -/
def OneAbsent (v w : Token) : Prop := v = absent ∧ w.IsZero ∨ w = absent ∧ v.IsZero

end Token

theorem numeric_eq_ok {context : Text} {t : Token} {x : Float} :
    numeric context t = .ok x ↔ t.quantity? = some x := by
  unfold numeric Token.quantity?
  split
  · simp
  · cases t.number <;> simp

/-! ## Equality -/

/-- Whether two values are equal: numbers as numbers, and what denotes no number by its text. -/
def Token.equals (v w : Token) : Bool :=
  match v.number, w.number with
  | some x, some y => x == y
  | none, none => v.textValue == w.textValue
  | _, _ => false

variable {v w : Token} {x y : Float}

theorem compareValues_eq (v w : Token) :
    compareValues Relation.eq.toText v w = .ok (v.equals w) := by
  rw [compareValues, if_pos (.inl rfl)]
  exact congrArg Except.ok (beq_true _)

theorem compareValues_ne (v w : Token) :
    compareValues Relation.ne.toText v w = .ok !v.equals w := by
  rw [compareValues, if_pos (.inr rfl)]
  exact congrArg Except.ok (beq_false _)

/-! ## Order -/

/-- The comparison operator that a relation is, if it is one of order. -/
def Relation.order? : Relation → Option Comparison
  | eq | ne => none
  | lt => some .lt
  | le => some .le
  | gt => some .gt
  | ge => some .ge

theorem compareValues_order {r : Relation} {c : Comparison} (order : r.order? = some c)
    (v w : Token) : compareValues r.toText v w = (do
      let x ← numeric r.toText v
      let y ← numeric r.toText w
      return c.holdsNumber x y) := by
  have notEqual : ¬(r.toText = "=" ∨ r.toText = "<>") := by cases r <;> cases order <;> decide
  have read : Comparison.read? r.toText = some c := by cases r <;> cases order <;> decide
  rw [compareValues, if_neg notEqual, read]

theorem compareValues_eq_ok {r : Relation} {c : Comparison} (order : r.order? = some c)
    {holds : Bool} : compareValues r.toText v w = .ok holds ↔
      ∃ x y, v.quantity? = some x ∧ w.quantity? = some y ∧ c.holdsNumber x y = holds := by
  rw [compareValues_order order, Except.bind_eq_ok]
  simp only [numeric_eq_ok]
  constructor
  · rintro ⟨x, left, h⟩
    obtain ⟨y, right, h⟩ := Except.bind_eq_ok.1 h
    exact ⟨x, y, left, numeric_eq_ok.1 right, Except.ok.inj h⟩
  · rintro ⟨x, y, left, right, rfl⟩
    exact ⟨x, left, by rw [numeric_eq_ok.2 right]; rfl⟩

/-- A value that is a number or absent counts as a number. -/
theorem Token.not_isNaN_quantity (h : ¬v.IsNaN) (counts : v.quantity? = some x) : ¬x.isNaN := by
  unfold quantity? at counts
  split at counts
  · cases counts
    decide +kernel
  · exact fun nan => h ⟨x, counts, nan⟩

/-- Values are equal if the numbers are that they count as, unless exactly one of the values is
absent and the other zero. -/
theorem Token.equals_eq_isEq {o : Ordering} (formed : v.WellFormed) (formed' : w.WellFormed)
    (both : ¬v.OneAbsent w) (left : v.quantity? = some x) (right : w.quantity? = some y)
    (compared : Number.compare? x y = some o) : v.equals w = o.isEq := by
  unfold Token.quantity? at left right
  split at left <;> split at right
  next empty empty' =>
    cases formed.absent empty
    cases formed'.absent empty'
    cases left
    cases right
    have same : Number.compare? 0.0 0.0 = some .eq := by decide +kernel
    cases same.symm.trans compared
    rfl
  next empty _ =>
    cases formed.absent empty
    cases left
    cases o with
    | eq => exact absurd (.inl ⟨rfl, y, right, compared⟩) both
    | lt | gt => simp [Token.equals, right, Token.absent]
  next _ empty =>
    cases formed'.absent empty
    cases right
    cases o with
    | eq =>
      have swapped : Number.compare? 0.0 x = some .eq := by
        rw [Number.compare?_swap, compared]
        rfl
      exact absurd (.inr ⟨rfl, x, left, swapped⟩) both
    | lt | gt => simp [Token.equals, left, Token.absent]
  next =>
    have beq : (x == y) = (Number.compare? x y == some .eq) := rfl
    simp only [Token.equals, left, right, beq, compared]
    cases o <;> rfl

/-! ## Relations that fit together -/

section Ordered

variable {verdict : Relation → Bool} (said : ∀ r, compareValues r.toText v w = .ok (verdict r))

include said

/-- What the relations of order say is how the numbers compare that the values count as. -/
theorem exists_compare_of_verdict (hv : ¬v.IsNaN) (hw : ¬w.IsNaN) :
    ∃ x y o, v.quantity? = some x ∧ w.quantity? = some y ∧ Number.compare? x y = some o ∧
      verdict .lt = o.isLT ∧ verdict .le = o.isLE ∧
        verdict .gt = o.isGT ∧ verdict .ge = o.isGE := by
  obtain ⟨x, y, left, right, -⟩ := (compareValues_eq_ok (r := .lt) rfl).1 (said .lt)
  obtain ⟨o, compared⟩ := Number.exists_compare? (v.not_isNaN_quantity hv left)
    (w.not_isNaN_quantity hw right)
  have holds {r : Relation} {c : Comparison} (order : r.order? = some c) :
      verdict r = c.holdsNumber x y := by
    obtain ⟨x', y', left', right', same⟩ := (compareValues_eq_ok order).1 (said r)
    cases left.symm.trans left'
    cases right.symm.trans right'
    exact same.symm
  have means := Comparison.holdsNumber_of_compare? compared
  exact ⟨x, y, o, left, right, compared, (holds rfl).trans (means .lt),
    (holds rfl).trans (means .le), (holds rfl).trans (means .gt), (holds rfl).trans (means .ge)⟩

/-- Equality fits with the order, unless exactly one of the values is absent and the other zero. -/
theorem ordered_of_compareValues (formed : v.WellFormed) (formed' : w.WellFormed)
    (hv : ¬v.IsNaN) (hw : ¬w.IsNaN) (both : ¬v.OneAbsent w) : Relation.Ordered verdict := by
  obtain ⟨x, y, o, left, right, compared, lt, le, gt, ge⟩ := exists_compare_of_verdict said hv hw
  have equal : verdict .eq = v.equals w :=
    Except.ok.inj ((said .eq).symm.trans (compareValues_eq v w))
  have unequal : verdict .ne = !v.equals w :=
    Except.ok.inj ((said .ne).symm.trans (compareValues_ne v w))
  have fits := Token.equals_eq_isEq formed formed' both left right compared
  constructor
  · rw [lt, gt, equal, fits]
    cases o <;> rfl
  · rw [le, lt, equal, fits]
    cases o <;> rfl
  · rw [ge, gt, equal, fits]
    cases o <;> rfl
  · rw [unequal, equal]

end Ordered

theorem Token.WellFormed.quantity?_eq (formed : v.WellFormed) (number : v.number = some x) :
    v.quantity? = some x := by
  rw [quantity?, if_neg, number]
  intro empty
  rw [formed.absent empty] at number
  cases number

/-- Beside a zero, an absent value is neither less nor equal nor greater, and yet at most and at
least as large. -/
theorem compareValues_oneAbsent (formed : v.WellFormed) (formed' : w.WellFormed)
    (h : v.OneAbsent w) (r : Relation) : compareValues r.toText v w = .ok (match r with
      | .ne | .le | .ge => true
      | .eq | .lt | .gt => false) := by
  obtain ⟨x, y, left, right, compared, differ⟩ : ∃ x y, v.quantity? = some x ∧
      w.quantity? = some y ∧ Number.compare? x y = some .eq ∧ v.equals w = false := by
    obtain ⟨rfl, x, number, zero⟩ | ⟨rfl, x, number, zero⟩ := h
    · exact ⟨0.0, x, rfl, formed'.quantity?_eq number, zero, by rw [Token.equals, number]; rfl⟩
    · refine ⟨x, 0.0, formed.quantity?_eq number, rfl, ?_, by rw [Token.equals, number]; rfl⟩
      rw [Number.compare?_swap, zero]
      rfl
  have means := Comparison.holdsNumber_of_compare? compared
  cases r with
  | eq => rw [compareValues_eq, differ]
  | ne => rw [compareValues_ne, differ, Bool.not_false]
  | lt => exact (compareValues_eq_ok rfl).2 ⟨x, y, left, right, means .lt⟩
  | le => exact (compareValues_eq_ok rfl).2 ⟨x, y, left, right, means .le⟩
  | gt => exact (compareValues_eq_ok rfl).2 ⟨x, y, left, right, means .gt⟩
  | ge => exact (compareValues_eq_ok rfl).2 ⟨x, y, left, right, means .ge⟩

/-! ## Truth values -/

namespace Text

/-- The texts are as long as each other and have capitals in the same places. -/
def SameCase (s t : Text) : Prop := s.map Char.isUpper = t.map Char.isUpper

instance (s t : Text) : Decidable (s.SameCase t) := inferInstanceAs (Decidable (_ = _))

theorem char_eq_iff (c d : Char) : c = d ↔ c.toLower = d.toLower ∧ c.isUpper = d.isUpper := by
  constructor
  · rintro rfl
    exact ⟨rfl, rfl⟩
  · rintro ⟨lower, upper⟩
    have capital : 65 ≤ c.toNat ∧ c.toNat ≤ 90 ↔ 65 ≤ d.toNat ∧ d.toNat ≤ 90 := by
      rw [← isUpper_iff, ← isUpper_iff, upper]
    have lower : c.toLower.toNat = d.toLower.toNat := congrArg Char.toNat lower
    rw [toNat_toLower, toNat_toLower] at lower
    refine Char.toNat_inj.1 ?_
    split at lower <;> split at lower <;> omega

/-- Texts are equal if they are so up to letter case and have the same letter case. -/
theorem eq_iff_sameCase (s t : Text) : s = t ↔ s.lower = t.lower ∧ s.SameCase t := by
  unfold lower SameCase
  induction s generalizing t with
  | nil => cases t <;> simp
  | cons c s ih =>
    cases t with
    | nil => simp
    | cons d t =>
      simp only [List.map_cons, List.cons.injEq, ih, char_eq_iff c d]
      tauto

end Text

namespace Token.IsOutcome

/-- A truth value is written as one, and it denotes no number. -/
theorem spelled (h : v.IsOutcome) (role : v.role = .logical) :
    v.kind ≠ .infixOp ∧ isLogicalText v.text ∧ v.number = none := by
  have isValue : v.kind = .operand ∨ v.kind = .literal := by
    simpa [Token.isValue] using h.2.1.1
  obtain isInfix | spelled := h.1.logical role
  · simp [isInfix] at isValue
  · exact ⟨by rintro isInfix; simp [isInfix] at isValue, spelled⟩

/-- A truth value stands for one of the two, and is spelled so up to letter case. -/
theorem exists_logical (h : v.IsOutcome) (role : v.role = .logical) :
    ∃ b, v.logical? = some b ∧ v.text.lower = (ofLogical b).text := by
  obtain ⟨notInfix, spelled, -⟩ := h.spelled role
  have known : ¬(v.role ≠ .logical ∨ v.kind = .infixOp) := by simp [role, notInfix]
  unfold logical?
  rw [if_neg known]
  by_cases isTrue : v.text.eqIgnoringCase "TRUE"
  · exact ⟨true, if_pos isTrue, beq_iff_eq.1 isTrue⟩
  · have isFalse : v.text.eqIgnoringCase "FALSE" :=
      (Bool.or_eq_true_iff.1 spelled).resolve_left isTrue
    exact ⟨false, by rw [if_neg isTrue, if_pos isFalse], beq_iff_eq.1 isFalse⟩

end Token.IsOutcome

/-- Truth values are equal if they are the same and written in the same letter case. -/
theorem equals_logical {b c : Bool} (hv : v.IsOutcome) (hw : w.IsOutcome)
    (role : v.role = .logical) (role' : w.role = .logical) (left : v.logical? = some b)
    (right : w.logical? = some c) : v.equals w = decide (b = c ∧ v.text.SameCase w.text) := by
  obtain ⟨-, -, noNumber⟩ := hv.spelled role
  obtain ⟨-, -, noNumber'⟩ := hw.spelled role'
  obtain ⟨_, known, lowered⟩ := hv.exists_logical role
  obtain ⟨_, known', lowered'⟩ := hw.exists_logical role'
  cases left.symm.trans known
  cases right.symm.trans known'
  have spelledAlike : v.text.lower = w.text.lower ↔ b = c := by
    rw [lowered, lowered']
    cases b <;> cases c <;> decide
  simp only [Token.equals, noNumber, noNumber', Token.textValue, role, role']
  rw [Bool.eq_iff_iff, decide_eq_true_iff, ← spelledAlike, ← Text.eq_iff_sameCase]
  simp

end JoinSheet
