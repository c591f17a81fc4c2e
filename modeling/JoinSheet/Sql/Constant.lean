import JoinSheet.Error

/-!
# Constants

A constant enters a statement as it is written: a number, a text between single quotes, or a list of
constants between parentheses.

## Main definitions

* `Constant.isNumber`, `Constant.isQuoted` — the two simple forms.
* `isConstant` — all three forms, with blanks around them.
-/

namespace JoinSheet

namespace Constant

/-- A run of decimal digits, at least one. -/
def isDigits (t : Text) : Bool := t ≠ [] && t.all Char.isDigit

/-- Digits with an optional fraction. -/
def isUnsigned (t : Text) : Bool :=
  match t.cut? '.' with
  | none => isDigits t
  | some (whole, fraction) => isDigits whole && isDigits fraction

/-- An optional minus sign, digits, and an optional fraction. -/
def isNumber : Text → Bool
  | '-' :: t => isUnsigned t
  | t => isUnsigned t

/-- What stands between a first and a last character. -/
def between? (first last : Char) (t : Text) : Option Text :=
  if 2 ≤ t.length ∧ t.head? = some first ∧ t.getLast? = some last then some (t.drop 1).dropLast
  else none

theorem length_of_between? {first last : Char} {t inner : Text}
    (h : between? first last t = some inner) : inner.length + 2 = t.length := by
  unfold between? at h
  split at h
  · cases h; simp only [List.length_dropLast, List.length_drop]; omega
  · simp at h

/-- A text between single quotes that contains none itself. -/
def isQuoted (t : Text) : Bool := (between? '\'' '\'' t).any fun inner => '\'' ∉ inner

end Constant

theorem Text.length_trim_le (t : Text) : t.trim.length ≤ t.length := by
  simp only [Text.trim, Text.dropTrailing, List.length_reverse]
  have h₁ := (List.dropWhile_sublist isBlank (l := (t.dropWhile isBlank).reverse)).length_le
  have h₂ := (List.dropWhile_sublist isBlank (l := t)).length_le
  simp only [List.length_reverse] at h₁
  omega

/-- Numbers, texts between single quotes, and lists of constants, with blanks around them. -/
def isConstant (raw : Text) : Bool :=
  Constant.isNumber raw.trim || Constant.isQuoted raw.trim ||
    match _h : Constant.between? '(' ')' raw.trim with
    | none => false
    | some inner =>
      inner.trim ≠ [] && (inner.split ',').attach.all fun ⟨part, _⟩ => isConstant part
termination_by raw.length
decreasing_by
  have := Constant.length_of_between? _h
  have := Text.length_trim_le raw
  have := Text.length_le_of_mem_split ‹part ∈ _›
  omega

end JoinSheet
