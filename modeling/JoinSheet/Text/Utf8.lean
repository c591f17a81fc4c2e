import JoinSheet.Text.CharSet

/-!
# Ranges of bytes

In UTF-8 a character is a sequence of one to four bytes. A range of code points is cut into ranges
that are sequences of ranges of bytes: such a sequence stands for all characters each of whose bytes
lies in the range at its place.

## Main definitions

* `ByteRange`, `Utf8.sequences` — the sequences for a range of code points.
* `CharSet.sequences` — the sequences for a set of characters.
-/

namespace JoinSheet

/-- A range of bytes. -/
structure ByteRange where
  first : Nat
  last : Nat
  deriving DecidableEq, Repr

namespace Utf8

/-- The bytes of a code point. -/
def bytes (n : Nat) : List Nat := (String.utf8EncodeChar (Char.ofNat n)).map UInt8.toNat

/-- Where a range of code points is cut at a multiple of `unit`, unless it lies between two of them or
consists of whole units: after the unit that it starts in, or else before the unit that it ends in. -/
def cutAtUnit? (unit first last : Nat) : Option Nat :=
  if first / unit = last / unit then none
  else if first % unit ≠ 0 then some ((first / unit + 1) * unit - 1)
  else if last % unit ≠ unit - 1 then some (last / unit * unit - 1)
  else none

/-- The code point after which a range is cut first: where the number of bytes changes, or where the
number of characters with the same first bytes does not fit. -/
def cut? (first last : Nat) : Option Nat :=
  ([0x7f, 0x7ff, 0xffff].find? fun bound => first ≤ bound && bound < last) <|>
    if last ≤ 0x7f then none
    else cutAtUnit? 0x40 first last <|> cutAtUnit? 0x1000 first last <|> cutAtUnit? 0x40000 first last

/-- The sequences of ranges of bytes for the code points from `first` to `last`. -/
def sequences (first last : Nat) : List (List ByteRange) :=
  match cut? first last with
  | some place =>
    if _h : first ≤ place ∧ place < last then sequences first place ++ sequences (place + 1) last
    else []
  | none => [((bytes first).zip (bytes last)).map fun (a, b) => ⟨a, b⟩]
termination_by last - first

end Utf8

/-- The sequences of ranges of bytes for a set of characters. -/
def CharSet.sequences (s : CharSet) : List (List ByteRange) :=
  s.ranges.flatMap fun (first, last) => Utf8.sequences first last

end JoinSheet
