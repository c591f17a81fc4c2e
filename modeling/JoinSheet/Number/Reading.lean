import JoinSheet.Text.Basic

/-!
# Reading numbers

A number is written as decimal digits with an optional point among or around them, an optional sign
before them and an optional power of ten after them. It denotes the nearest double, halves going to
the even one.

## Main definitions

* `Numeral.ofText?` — the numeral that a text spells.
* `Number.read?` — the double that a text denotes.
-/

namespace JoinSheet

/-- The number `± digits · 10 ^ exponent`. -/
structure Numeral where
  negative : Bool
  digits : Nat
  exponent : Int
  deriving DecidableEq, Repr

namespace Numeral

/-- Digits with an optional point, as the number of the digits and how many follow the point. -/
def fixedPoint? (t : Text) : Option (Nat × Nat) :=
  match t.cut? '.' with
  | none => (t.toNat?).map fun n => (n, 0)
  | some (whole, fraction) =>
    (Text.toNat? (whole ++ fraction)).map fun n => (n, fraction.length)

/-- An unsigned numeral: digits with an optional point, then an optional power of ten. -/
def magnitude? (t : Text) : Option (Nat × Int) :=
  let mantissa := t.takeWhile fun c => c != 'e' && c != 'E'
  match t.drop mantissa.length with
  | [] => (fixedPoint? mantissa).map fun (n, places) => (n, -Int.ofNat places)
  | _ :: power => do
    let (n, places) ← fixedPoint? mantissa
    let exponent ← Text.toInt? power
    return (n, exponent - places)

/-- The numeral that a text spells. -/
def ofText? : Text → Option Numeral
  | '+' :: t => (magnitude? t).map fun (n, e) => ⟨false, n, e⟩
  | '-' :: t => (magnitude? t).map fun (n, e) => ⟨true, n, e⟩
  | t => (magnitude? t).map fun (n, e) => ⟨false, n, e⟩

/-- The double nearest to `digits · 10 ^ exponent`. Powers of ten that lie beyond every double are
settled first, so that the work is bounded. -/
def toFloatMagnitude (digits : Nat) (exponent : Int) : Float :=
  let order := Int.ofNat (Nat.toDigits 10 digits).length + exponent
  if digits = 0 ∨ order < -330 then 0.0
  else if order > 310 then 1.0 / 0.0
  else Float.ofScientific digits (exponent < 0) exponent.natAbs

/-- The double nearest to a numeral. A negative zero keeps its sign. -/
def toFloat (n : Numeral) : Float :=
  let magnitude := toFloatMagnitude n.digits n.exponent
  if n.negative then -magnitude else magnitude

end Numeral

/-- The double that a text denotes, if the text is a numeral. -/
def Number.read? (t : Text) : Option Float := (Numeral.ofText? t).map Numeral.toFloat

end JoinSheet
