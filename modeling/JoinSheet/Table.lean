import JoinSheet.Text.Basic

/-!
# Tables and foreign keys

## Main definitions

* `TableName` — a table within a schema. Tables are ordered by schema, then by name.
* `Column` — a column as the database catalog describes it.
* `ForeignKey` — source columns that reference target columns. A key has no direction of its own:
  which table is the other one depends on the table it is seen from.
-/

namespace JoinSheet

/-- A table within a schema. -/
structure TableName where
  schema : Text
  table : Text
  deriving DecidableEq, Repr

namespace TableName

/-- The schema, a point, and the table. -/
def toText (t : TableName) : Text := t.schema ++ '.' :: t.table

/-- The qualified name of a column of the table. -/
def column (t : TableName) (name : Text) : Text := t.toText ++ '.' :: name

instance : Ord TableName := ⟨compareLex (compareOn TableName.schema) (compareOn TableName.table)⟩

instance : Std.TransOrd TableName :=
  inferInstanceAs
    (Std.TransCmp (compareLex (compareOn TableName.schema) (compareOn TableName.table)))

instance : Std.LawfulEqOrd TableName where
  eq_of_compare {a b} h := by
    obtain ⟨hs, ht⟩ := compareLex_eq_eq.1 h
    cases a; cases b
    simp_all [compareOn]

end TableName

/-- The number that the database gives a constraint. -/
abbrev ConstraintId := Int

/-- A column as the catalog describes it. -/
structure Column where
  name : Text
  nullable : Bool := true
  dataType : Text := []
  primaryKey : Bool := false
  /-- The declared position, counted from 1. -/
  position : Int := 0
  deriving DecidableEq, Repr

/-- Columns of the source table that reference columns of the target table. -/
structure ForeignKey where
  source : TableName
  target : TableName
  sourceColumns : List Text
  targetColumns : List Text
  deriving DecidableEq, Repr

namespace ForeignKey

/-- Whether a table is one of the two ends. -/
def touches (key : ForeignKey) (t : TableName) : Bool := key.source = t || key.target = t

/-- The table at the far end, seen from `t`. -/
def otherSide? (key : ForeignKey) (t : TableName) : Option TableName :=
  if key.source = t then some key.target
  else if key.target = t then some key.source
  else none

theorem isSome_otherSide? (key : ForeignKey) (t : TableName) :
    (key.otherSide? t).isSome = key.touches t := by
  by_cases hs : key.source = t <;> by_cases ht : key.target = t <;> simp [otherSide?, touches, hs, ht]

/-- The referencing columns, each with the column it references. -/
def columnPairs (key : ForeignKey) : List (Text × Text) :=
  key.sourceColumns.zip key.targetColumns

/-- Both ends with their columns. -/
def toText (key : ForeignKey) : Text :=
  key.source.toText ++ '.' :: Text.joined "," key.sourceColumns ++ "->" ++
    key.target.toText ++ '.' :: Text.joined "," key.targetColumns

end ForeignKey

end JoinSheet
