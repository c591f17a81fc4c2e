import JoinSheet.Text.Basic

/-!
# Functions

The functions that formulas may call, by their names in upper case.

## Main definitions

* `Fold` — the functions that combine the values of a set two by two.
* `Conditional` — the functions that look only at rows that meet a criterion.
* `Function` — all functions.
-/

namespace JoinSheet

/-- The functions that combine the values of a set two by two. -/
inductive Fold where
  | sum | max | min | product
  deriving DecidableEq, Repr

namespace Fold

/-- How a function is written. -/
def toText : Fold → Text
  | sum => "SUM"
  | max => "MAX"
  | min => "MIN"
  | product => "PRODUCT"

/-- All of them. -/
def all : List Fold := [sum, max, min, product]

/-- The function with a name. -/
def ofName? (name : Text) : Option Fold := all.find? fun f => f.toText == name

/-- The result over no values. -/
def empty : Fold → Float
  | product => 1.0
  | sum | max | min => 0.0

/-- Two values combined. Of two equal values the first one stays, and a value that is not a number
gives way. -/
def combine (f : Fold) (x y : Float) : Float :=
  match f with
  | sum => x + y
  | product => x * y
  | max => if x.isNaN || y > x then y else x
  | min => if x.isNaN || y < x then y else x

/-- A further value combined with those before it, if there are any. -/
def add (f : Fold) (acc : Option Float) (x : Float) : Option Float :=
  match acc with
  | none => some x
  | some a => some (f.combine a x)

end Fold

/-- The functions that look only at rows that meet a criterion. -/
inductive Conditional where
  | countIf | sumIf | averageIf
  deriving DecidableEq, Repr

namespace Conditional

/-- How a function is written. -/
def toText : Conditional → Text
  | countIf => "COUNTIF"
  | sumIf => "SUMIF"
  | averageIf => "AVERAGEIF"

/-- All of them. -/
def all : List Conditional := [countIf, sumIf, averageIf]

/-- How many arguments a function takes at most. -/
def maxArguments : Conditional → Nat
  | countIf => 2
  | sumIf | averageIf => 3

end Conditional

/-- The functions that formulas may call. -/
inductive Function where
  | fold (f : Fold)
  | average
  | conditional (f : Conditional)
  | regexMatch
  | choose
  deriving DecidableEq, Repr

/-- The function with a name. -/
def Function.ofName? (name : Text) : Option Function :=
  ((Fold.ofName? name).map fold).or <|
    ((Conditional.all.find? fun f => f.toText == name).map conditional).or <|
      if name = "AVERAGE" then some average
      else if name = "REGEXMATCH" then some regexMatch
      else if name = "IF" then some choose
      else none

end JoinSheet
