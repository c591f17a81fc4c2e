import JoinSheet.Proofs.Evaluation.Comparison
import JoinSheet.Sheet.Extra

/-!
# Conditions

A comparison as the condition of `IF` is decided by the values of its two sides, and `IF` has the
value of the argument that it chooses. What is known of comparisons of values is so known of
conditions.

## Main definitions

* `IsComparand` — tokens that may stand beside a comparison.
* `Scope.sides` — the values on both sides of a comparison.
* `Scope.finds` — whether a comparison holds as a condition.
* `Scope.Chooses` — what `IF` does with such a condition.

## Main statements

* `Scope.finds_ordered` — the comparisons of two expressions fit together, except for an absent side
  beside a zero.
* `Scope.finds_logical` — truth values are equal if they are the same in the same letter case.
-/

namespace JoinSheet

variable {x y a b : List Token} {r : Relation}

/-- Well-formed tokens that may stand beside a comparison: their parentheses match, and outside of
parentheses there are neither commas that separate nor comparisons. -/
structure IsComparand (tokens : List Token) : Prop where
  balanced : Balanced (fun t => t.kind ≠ .separator ∧ ¬t.isComparison) tokens
  wellFormed : ∀ t ∈ tokens, t.WellFormed

theorem Token.wellFormed_relation (r : Relation) : r.token.WellFormed := wellFormed_comparison _

namespace IsComparand

theorem isBranch (h : IsComparand x) : IsBranch x :=
  ⟨h.balanced.mono fun _ => And.left, h.wellFormed⟩

/-- The search for a comparison passes over what stands beside one. -/
theorem skips (h : IsComparand x) :
    Cut.Skips (fun t _ => t.isComparison) (x.filter Token.isPrinted) :=
  Cut.skips_of_balanced (h.balanced.filter fun t mem => (h.wellFormed t mem).not_bracket_of_blank)
    fun t _ plain => by simpa using plain.2

/-- Two sides and the comparison between them are an argument. -/
theorem isBranch_comparison (hx : IsComparand x) (hy : IsComparand y) (r : Relation) :
    IsBranch (x ++ r.token :: y) where
  isArgument := by
    have comparison : IsArgument (r.token :: y) :=
      .token (by simp [Relation.token]) (by simp [Relation.token, Token.isOpening])
        (by simp [Relation.token, Token.isClosing]) hy.isBranch.isArgument
    exact Balanced.append hx.isBranch.isArgument comparison
  wellFormed := by
    have := Token.wellFormed_relation r
    grind [hx.wellFormed, hy.wellFormed]

end IsComparand

theorem isComparand_operand (t : Text) : IsComparand [Token.operand t] where
  balanced := by
    have isValue : (Token.operand t).isValue := by simp [Token.isValue]
    obtain ⟨-, notOpening, notClosing⟩ := (Token.wellFormed_operand t).isOperand isValue
    exact .token (by simp [Token.isComparison]) notOpening notClosing .nil
  wellFormed := List.forall_mem_singleton.2 (Token.wellFormed_operand t)

/-- A call may stand beside a comparison. -/
theorem isComparand_callOf {arguments : List (List Token)} (h : ∀ a ∈ arguments, IsBranch a)
    (name : Text) : IsComparand (Token.callOf name arguments) where
  balanced := by
    have inside := balanced_intercalate fun a mem => (h a mem).isArgument
    have opens : (Token.callOpener name).kind ≠ .separator ∧
        ¬(Token.callOpener name).isComparison := by simp [Token.isComparison, Token.callOpener]
    exact .group opens rfl rfl (by simp [Token.callCloser]) inside .nil
  wellFormed := by
    have opener : (Token.callOpener name).WellFormed :=
      Token.wellFormed_of_bracket (.inl rfl) (.inl rfl)
    have closer : Token.callCloser.WellFormed :=
      Token.wellFormed_of_bracket (.inr rfl) (.inl rfl)
    have comma : Token.comma.WellFormed := Token.wellFormed_of_isBare rfl
    have inside : ∀ t ∈ [Token.comma].intercalate arguments, t.WellFormed := by
      cases arguments with
      | nil => simp
      | cons a after =>
        rw [intercalate_cons]
        have each (b : List Token) (mem : b ∈ a :: after) := (h b mem).wellFormed
        grind
    grind [Token.callOf]

namespace Scope

open JoinSheet.Action

/-- The values on both sides of a comparison, the left one first. -/
def sides (scope : Scope) (x y : List Token) : Action (Token × Token) := do
  let v ← scope.evaluate x
  let w ← scope.evaluate y
  return (v, w)

/-- Whether a comparison holds as a condition. -/
def finds (scope : Scope) (x : List Token) (r : Relation) (y : List Token) : Action Bool :=
  (scope.argument ((x ++ r.token :: y).filter Token.isPrinted)).holds ()

variable {scope : Scope}

/-- A comparison is decided by the values of its sides. -/
theorem finds_eq (hx : IsComparand x) (hy : IsComparand y) (r : Relation) :
    scope.finds x r y = (do
      let values ← scope.sides x y
      compareValues r.toText values.1 values.2) := by
  have found : Cut.first? (fun t _ => t.isComparison)
      ((x ++ r.token :: y).filter Token.isPrinted) =
        some ⟨x.filter Token.isPrinted, r.token, y.filter Token.isPrinted⟩ := by
    rw [List.filter_append, List.filter_cons_of_pos rfl]
    exact hx.skips.first?_append (by simp [Relation.token, Token.isClosing]) rfl
  unfold finds argument Argument.ofPart condition
  dsimp only
  split
  next missed => cases missed.symm.trans found
  next cut there =>
    cases there.symm.trans found
    rw [if_neg (by simp [hy.skips.eq_none])]
    simp only [sides, bind_assoc, pure_bind]
    rfl

theorem result_finds {σ : Type} {server : Server σ} {d : σ} (hx : IsComparand x)
    (hy : IsComparand y) (r : Relation) :
    (scope.finds x r y).result server d = (scope.sides x y).result server d >>= fun values =>
      compareValues r.toText values.1 values.2 := by
  rw [finds_eq hx hy, result_bind_liftM]

theorem yields_sides (hx : IsComparand x) (hy : IsComparand y) :
    (scope.sides x y).Yields fun values => values.1.IsOutcome ∧ values.2.IsOutcome := by
  refine (scope.yields_evaluate hx.wellFormed).bind fun v hv => ?_
  exact (scope.yields_evaluate hy.wellFormed).bind fun w hw => yields_pure ⟨hv, hw⟩

/-- `IF` with a comparison of the two expressions has the value of the argument that the comparison
chooses. -/
def Chooses (scope : Scope) (x y : List Token) : Prop :=
  ∀ (r : Relation) (a b : List Token) (name : Text), IsBranch a → IsBranch b → name.upper = "IF" →
    scope.evaluate (Token.callOf name [x ++ r.token :: y, a, b]) = (do
      if ← scope.finds x r y then scope.evaluate a else scope.evaluate b)

theorem chooses (hx : IsComparand x) (hy : IsComparand y) : scope.Chooses x y := by
  intro r a b name ha hb isIf
  have branches : ∀ part ∈ [x ++ r.token :: y, a, b], IsBranch part := by
    simp only [List.forall_mem_cons]
    exact ⟨hx.isBranch_comparison hy r, ha, hb, nofun⟩
  have called (arguments : List Argument) : scope.call "IF" arguments = choose arguments := rfl
  rw [evaluate_callOf branches (by simp), isIf, called]
  simp only [List.map_cons, List.map_nil, choose, bind_assoc]
  refine bind_congr fun holds => ?_
  cases holds with
  | true => exact scope.reduce_bind_operand ha.filter.wellFormed
  | false => exact scope.reduce_bind_operand hb.filter.wellFormed

/-! ## Order -/

section Ordered

variable {σ : Type} {server : Server σ} {d : σ} {verdict : Relation → Bool}

/-- Where all comparisons of two expressions can be decided and both are numbers or absent, the
comparisons fit together, unless exactly one of the expressions is absent and the other one zero:
then neither of the two is less, they are not equal, and yet each is at most the other. -/
theorem finds_ordered (hx : IsComparand x) (hy : IsComparand y)
    (found : ∀ r, (scope.finds x r y).result server d = .ok (verdict r)) :
    scope.Chooses x y ∧ ∃ v w, (scope.sides x y).result server d = .ok (v, w) ∧
      (¬v.IsNaN → ¬w.IsNaN → (¬v.OneAbsent w → Relation.Ordered verdict) ∧
      (v.OneAbsent w → ∀ r, verdict r = match r with
        | .ne | .le | .ge => true
        | .eq | .lt | .gt => false)) := by
  refine ⟨chooses hx hy, ?_⟩
  obtain ⟨⟨v, w⟩, values, -⟩ :=
    Except.bind_eq_ok.1 ((result_finds hx hy .eq).symm.trans (found .eq))
  have said (r : Relation) : compareValues r.toText v w = .ok (verdict r) := by
    rw [← found r, result_finds hx hy, values]
    rfl
  obtain ⟨⟨formed, -⟩, formed', -⟩ := (yields_sides hx hy).run server d _ values
  refine ⟨v, w, values, fun hv hw => ⟨fun both => ?_, fun one r => ?_⟩⟩
  · exact ordered_of_compareValues said formed formed' hv hw both
  · exact Except.ok.inj ((said r).symm.trans (compareValues_oneAbsent formed formed' one r))

end Ordered

/-- An absent cell is less than one. -/
theorem finds_ordered_one :
    let scope : Scope := ⟨{ Sheet.ofTable ⟨"s", "t"⟩ {} with extras := [⟨"A", [{}]⟩] }, none⟩
    let server := Server.absent
    let x := [Token.operand "A1"]
    let y := [Token.operand "1"]
    let verdict : Relation → Bool := fun
      | .ne | .lt | .le => true
      | .eq | .gt | .ge => false
    IsComparand x ∧ IsComparand y ∧
      (∀ r, (scope.finds x r y).result server () = .ok (verdict r)) ∧ Relation.Ordered verdict := by
  intro scope server x y verdict
  have left : IsComparand x := isComparand_operand "A1"
  have right : IsComparand y := isComparand_operand "1"
  have found (r : Relation) : (scope.finds x r y).result server () = .ok (verdict r) := by
    cases r <;> rfl
  have values : (scope.sides x y).result server () = .ok (.absent, .operand "1") := rfl
  obtain ⟨-, v, w, same, order⟩ := finds_ordered left right found
  cases values.symm.trans same
  refine ⟨left, right, found, (order ?_ ?_).1 ?_⟩
  · rintro ⟨_, ⟨⟩, -⟩
  · rintro ⟨_, ⟨⟩, nan⟩
    exact absurd nan (by decide +kernel)
  · rintro (⟨-, _, ⟨⟩, zero⟩ | ⟨⟨⟩, -⟩)
    exact absurd zero (by decide +kernel)

/-- An absent cell is neither less than zero nor equal to it nor greater. -/
theorem not_ordered_zero :
    let scope : Scope := ⟨{ Sheet.ofTable ⟨"s", "t"⟩ {} with extras := [⟨"A", [{}]⟩] }, none⟩
    let server := Server.absent
    let x := [Token.operand "A1"]
    let y := [Token.operand "0"]
    IsComparand x ∧ IsComparand y ∧
      (scope.sides x y).result server () = .ok (.absent, .operand "0") ∧
      ¬Token.absent.IsNaN ∧ ¬(Token.operand "0").IsNaN ∧
      ∃ verdict : Relation → Bool,
        (∀ r, (scope.finds x r y).result server () = .ok (verdict r)) ∧
          ¬Relation.Ordered verdict := by
  intro scope server x y
  refine ⟨isComparand_operand "A1", isComparand_operand "0", rfl, ?_, ?_, fun
    | .ne | .le | .ge => true
    | .eq | .lt | .gt => false, ?_, ?_⟩
  · rintro ⟨_, ⟨⟩, -⟩
  · rintro ⟨_, ⟨⟩, nan⟩
    exact absurd nan (by decide +kernel)
  · intro r
    cases r <;> rfl
  · intro ordered
    exact absurd ordered.trichotomy (by decide)

/-! ## Truth values -/

/-- Two truth values are equal if they are the same and written in the same letter case, and
otherwise they are not. -/
theorem finds_logical {σ : Type} {server : Server σ} {d : σ} (hx : IsComparand x)
    (hy : IsComparand y) {v w : Token} (values : (scope.sides x y).result server d = .ok (v, w))
    (role : v.role = .logical) (role' : w.role = .logical) :
    scope.Chooses x y ∧ ∃ b c, v.logical? = some b ∧ w.logical? = some c ∧
      (scope.finds x .eq y).result server d = .ok (decide (b = c ∧ v.text.SameCase w.text)) ∧
      (scope.finds x .ne y).result server d = .ok !decide (b = c ∧ v.text.SameCase w.text) := by
  obtain ⟨left, right⟩ := (yields_sides hx hy).run server d _ values
  obtain ⟨b, isB, -⟩ := left.exists_logical role
  obtain ⟨c, isC, -⟩ := right.exists_logical role'
  have same := equals_logical left right role role' isB isC
  refine ⟨chooses hx hy, b, c, isB, isC, ?_, ?_⟩
  · rw [result_finds hx hy, values, Except.ok_bind, compareValues_eq, same]
  · rw [result_finds hx hy, values, Except.ok_bind, compareValues_ne, same]

/-- What matching finds is written in small letters, as the word beside it. -/
theorem finds_logical_matched :
    let scope : Scope := ⟨Sheet.ofTable ⟨"s", "t"⟩ {}, none⟩
    let server := Server.absent
    let letter := [Token.operand ['"', 'a', '"']]
    let x := Token.callOf "REGEXMATCH" [letter, letter]
    let y := [Token.operand "true"]
    IsComparand x ∧ IsComparand y ∧
      (scope.sides x y).result server () = .ok (.ofLogical true, .operand "true") ∧
      (Token.ofLogical true).role = .logical ∧ (Token.operand "true").role = .logical ∧
      (scope.finds x .eq y).result server () = .ok true ∧
      (scope.finds x .ne y).result server () = .ok false := by
  intro scope server letter x y
  have argument : IsBranch letter := (isComparand_operand _).isBranch
  have left : IsComparand x := isComparand_callOf (by simp [argument]) "REGEXMATCH"
  have right : IsComparand y := isComparand_operand "true"
  have values : (scope.sides x y).result server () = .ok (.ofLogical true, .operand "true") := rfl
  obtain ⟨-, b, c, isB, isC, eq, ne⟩ := finds_logical left right values rfl rfl
  cases (show (Token.ofLogical true).logical? = some true from rfl).symm.trans isB
  cases (show (Token.operand "true").logical? = some true from rfl).symm.trans isC
  exact ⟨left, right, values, rfl, rfl, eq, ne⟩

/-- What matching finds is not equal to the same truth value in capital letters. -/
theorem not_equal_matched :
    let scope : Scope := ⟨Sheet.ofTable ⟨"s", "t"⟩ {}, none⟩
    let server := Server.absent
    let letter := [Token.operand ['"', 'a', '"']]
    let x := Token.callOf "REGEXMATCH" [letter, letter]
    let y := [Token.operand "TRUE"]
    IsComparand x ∧ IsComparand y ∧
      (scope.sides x y).result server () = .ok (.ofLogical true, .operand "TRUE") ∧
      (Token.ofLogical true).logical? = some true ∧ (Token.operand "TRUE").logical? = some true ∧
      (scope.finds x .eq y).result server () = .ok false ∧
      (scope.finds x .ne y).result server () = .ok true := by
  intro scope server letter x y
  have argument : IsBranch letter := (isComparand_operand _).isBranch
  exact ⟨isComparand_callOf (by simp [argument]) "REGEXMATCH", isComparand_operand "TRUE",
    rfl, rfl, rfl, rfl, rfl⟩

end Scope

end JoinSheet
