/-!
# Shortest decimals

A double stands for all reals that round to it. Of the decimals among them, the shortest are those
on the coarsest grid of powers of ten that has a point there, and of two such points the nearer one
is taken, the larger one if both are equally near.

## Main definitions

* `Binary` — a positive number `mantissa · 2 ^ exponent` and the interval that rounds to it.
* `Binary.shortest` — the shortest decimal in the interval.
-/

namespace JoinSheet

/-- The positive number `mantissa · 2 ^ exponent`. It is `atStep` if the next smaller double is only
half as far away as the next larger one. -/
structure Binary where
  mantissa : Nat
  exponent : Int
  atStep : Bool
  deriving DecidableEq, Repr

/-- The decimal `digits · 10 ^ exponent`. -/
structure Decimal where
  digits : Nat
  exponent : Int
  deriving DecidableEq, Repr

namespace Binary

/-- The magnitude of a finite double other than zero, from its bits. -/
def ofBits (bits : Nat) : Binary :=
  let fraction : Nat := bits % Nat.pow 2 52
  let power : Nat := bits / Nat.pow 2 52 % Nat.pow 2 11
  if power = 0 then ⟨fraction, -1074, false⟩
  else ⟨Nat.pow 2 52 + fraction, (power : Int) - 1075, fraction = 0 ∧ 1 < power⟩

/-- What a quarter of the last place counts in, as a fraction, on the grid of `10 ^ place`. -/
def quarter (b : Binary) (place : Int) : Nat × Nat :=
  (Nat.pow 2 (b.exponent - 2).toNat * Nat.pow 10 (-place).toNat,
    Nat.pow 2 (2 - b.exponent).toNat * Nat.pow 10 place.toNat)

/-- The ends of the interval in quarters of the last place. -/
def low (b : Binary) : Nat := 4 * b.mantissa - if b.atStep then 1 else 2

/-- The upper end of the interval in quarters of the last place. -/
def high (b : Binary) : Nat := 4 * b.mantissa + 2

/-- Whether `n · 10 ^ place` rounds to the number. The ends of the interval do if the mantissa is
even. -/
def holds (b : Binary) (place : Int) (n : Nat) : Bool :=
  let (num, den) := b.quarter place
  if b.mantissa % 2 = 0 then b.low * num ≤ n * den && n * den ≤ b.high * num
  else b.low * num < n * den && n * den < b.high * num

/-- The nearer one of the number's two neighbours on the grid of `10 ^ place`, of those that round to
the number. A tie goes to the larger one. -/
def onGrid? (b : Binary) (place : Int) : Option Nat :=
  let (num, den) := b.quarter place
  let scaled := 4 * b.mantissa * num
  let below := scaled / den
  match b.holds place below, b.holds place (below + 1) with
  | true, true => some (if 2 * scaled < (2 * below + 1) * den then below else below + 1)
  | true, false => some below
  | false, true => some (below + 1)
  | false, false => none

/-- The first hit on the `tries` grids from `10 ^ place` downwards. -/
def search (b : Binary) : Nat → Int → Decimal
  | 0, place => ⟨(b.onGrid? place).getD 0, place⟩
  | tries + 1, place =>
    match b.onGrid? place with
    | some n => ⟨n, place⟩
    | none => search b tries (place - 1)

/-- The shortest decimal that rounds to the number. The search starts above the number's own power
of ten, and seventeen digits always suffice. -/
def shortest (b : Binary) : Decimal :=
  b.search 24 ((b.exponent + Nat.log2 b.mantissa + 1) * 30103 / 100000 + 2)

end Binary

end JoinSheet
