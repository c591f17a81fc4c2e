import JoinSheet.Number.Shortest
import JoinSheet.Text.Basic

/-!
# Writing numbers

A number is written with the fewest digits that read back as it, always without a power of ten.

## Main definitions

* `Decimal.toText` — a decimal in positional notation.
* `Number.signed` — a double, with the sign of a negative zero.
* `Number.write` — a double, both zeros as `0`.
-/

namespace JoinSheet

/-- Positional notation: zeros fill the places between the digits and the point. -/
def Decimal.toText (d : Decimal) : Text :=
  let digits := Text.ofNat d.digits
  match d.exponent with
  | .ofNat zeros => digits ++ List.replicate zeros '0'
  | .negSucc n =>
    let places := n + 1
    if digits.length ≤ places then "0." ++ List.replicate (places - digits.length) '0' ++ digits
    else digits.take (digits.length - places) ++ '.' :: digits.drop (digits.length - places)

namespace Number

/-- A double in positional notation, with a sign also for a negative zero. -/
def signed (x : Float) : Text :=
  let bits := x.toBits.toNat
  let sign : Text := if bits / Nat.pow 2 63 = 0 then [] else ['-']
  let magnitude := bits % Nat.pow 2 63
  if x.isNaN then "NaN"
  else if magnitude = 0x7ff0000000000000 then sign ++ "inf"
  else if magnitude = 0 then sign ++ "0"
  else sign ++ (Binary.ofBits magnitude).shortest.toText

/-- A double in positional notation. Both zeros are `0`. -/
def write (x : Float) : Text := if x == 0.0 then "0" else signed x

end Number

end JoinSheet
