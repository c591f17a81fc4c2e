import JoinSheet.Error
import JoinSheet.Sql.Like

/-!
# Comparisons

The comparison operators that filters, criteria and statements may use.

## Main definitions

* `Comparison` — the operators.
* `Comparison.read`, `Comparison.split?` — an operator as a whole text and at the start of one.
* `Comparison.holdsNumber`, `Comparison.holdsText` — what an operator means.
-/

namespace JoinSheet

/-- The comparison operators. -/
inductive Comparison where
  | eq | lt | le | gt | ge | like
  deriving DecidableEq, Repr

namespace Comparison

/-- How an operator is written. -/
def toText : Comparison → Text
  | eq => "="
  | lt => "<"
  | le => "<="
  | gt => ">"
  | ge => ">="
  | like => "LIKE"

/-- The operators, longer ones before those they start with. -/
def all : List Comparison := [like, le, ge, eq, lt, gt]

/-- The operator that a text is, with blanks around it, in any letter case. -/
def read? (t : Text) : Option Comparison := all.find? fun c => c.toText.eqIgnoringCase t.trim

/-- The operator that a text is. -/
def read (t : Text) : Except Error Comparison :=
  match read? t with
  | some c => .ok c
  | none => .error (.unsafeSql (.unknownOperator t))

/-- The operator that a text starts with, in any letter case, and the rest of the text. -/
def split? (t : Text) : Option (Comparison × Text) :=
  all.findSome? fun c =>
    if Text.eqIgnoringCase (t.take c.toText.length) c.toText then some (c, t.drop c.toText.length)
    else none

/-- Whether two numbers stand in the relation. Pattern matching means equality here. -/
def holdsNumber (c : Comparison) (x y : Float) : Bool :=
  match c with
  | eq | like => x == y
  | lt => x < y
  | le => x ≤ y
  | gt => x > y
  | ge => x ≥ y

/-- Whether two texts stand in the relation. They are ordered by their characters. -/
def holdsText (c : Comparison) (s t : Text) : Bool :=
  match c with
  | eq => s == t
  | lt => (compare s t).isLT
  | le => (compare s t).isLE
  | gt => (compare s t).isGT
  | ge => (compare s t).isGE
  | like => Like.isMatch t.utf8 s.utf8

end Comparison

end JoinSheet
