import JoinSheet.Sql.Comparison

/-!
# The order of numbers

Any two numbers compare in exactly one way, and what is not a number compares to nothing. What a
comparison operator says of two numbers is decided by how they compare.

## Main definitions

* `Number.compare?` — how two numbers compare.

## Main statements

* `Number.exists_compare?` — two numbers compare.
* `Comparison.holdsNumber_of_compare?` — what the operators say of them.
-/

namespace JoinSheet

open Float.Model (UnpackedFloat)

namespace Number

/-- How two numbers compare. The two zeros are equal. -/
def compare? (x y : Float) : Option Ordering := x.toModel.compare y.toModel

theorem compare_magnitude_swap (m m' : Nat) (e e' : Int) :
    ((compare e e').then (compare m m')).swap = (compare e' e).then (compare m' m) := by
  rw [Ordering.swap_then, ← Std.OrientedCmp.eq_swap, ← Std.OrientedCmp.eq_swap]

theorem map_swap_compare (a b : UnpackedFloat) :
    (a.compare b).map Ordering.swap = b.compare a := by
  cases a with
  | notANumber => cases b <;> rfl
  | infinity s =>
    cases b with
    | finite s' => cases s <;> cases s' <;> rfl
    | infinity s' => cases s <;> cases s' <;> rfl
    | _ => cases s <;> rfl
  | zero s =>
    cases b with
    | infinity s' | finite s' => cases s' <;> rfl
    | _ => rfl
  | finite s m e =>
    cases b with
    | finite s' m' e' =>
      have swapped := compare_magnitude_swap m m' e e'
      cases s <;> cases s'
      case positive.positive => exact congrArg some swapped
      case negative.negative => exact congrArg (fun o => some o.swap) swapped
      all_goals rfl
    | infinity s' => cases s <;> cases s' <;> rfl
    | _ => cases s <;> rfl

theorem exists_compare {a b : UnpackedFloat} (ha : ¬a.isNaN) (hb : ¬b.isNaN) :
    ∃ o, a.compare b = some o := by
  cases a with
  | notANumber => exact absurd rfl ha
  | infinity s =>
    cases b with
    | notANumber => exact absurd rfl hb
    | infinity s' => cases s <;> cases s' <;> exact ⟨_, rfl⟩
    | _ => cases s <;> exact ⟨_, rfl⟩
  | zero s =>
    cases b with
    | notANumber => exact absurd rfl hb
    | zero s' => exact ⟨_, rfl⟩
    | infinity s' | finite s' => cases s' <;> exact ⟨_, rfl⟩
  | finite s =>
    cases b with
    | notANumber => exact absurd rfl hb
    | zero s' => cases s <;> exact ⟨_, rfl⟩
    | infinity s' | finite s' => cases s <;> cases s' <;> exact ⟨_, rfl⟩

theorem exists_compare? {x y : Float} (hx : ¬x.isNaN) (hy : ¬y.isNaN) :
    ∃ o, compare? x y = some o := exists_compare hx hy

theorem compare?_swap (x y : Float) : compare? y x = (compare? x y).map Ordering.swap :=
  (map_swap_compare _ _).symm

end Number

/-- What an operator says of two numbers, by how they compare. -/
theorem Comparison.holdsNumber_of_compare? {x y : Float} {o : Ordering}
    (h : Number.compare? x y = some o) (c : Comparison) :
    c.holdsNumber x y = match c with
      | .eq | .like => o.isEq
      | .lt => o.isLT
      | .le => o.isLE
      | .gt => o.isGT
      | .ge => o.isGE := by
  have swapped : Number.compare? y x = some o.swap := by
    rw [Number.compare?_swap, h, Option.map_some]
  have beq : (x == y) = (Number.compare? x y == some .eq) := rfl
  have lt (x y : Float) : x < y ↔ Number.compare? x y == some .lt := decide_eq_true_iff
  have le (x y : Float) : x ≤ y ↔ (Number.compare? x y).any (·.isLE) := decide_eq_true_iff
  cases c <;> simp [holdsNumber, beq, lt, le, h, swapped] <;> cases o <;> rfl

end JoinSheet
