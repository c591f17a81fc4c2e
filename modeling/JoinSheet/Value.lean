import JoinSheet.Text.Basic
import Std.Data.ExtTreeMap

/-!
# Values

What passes between the engine and a database is text, or nothing where the database has NULL.
Cells of a sheet hold the same.

## Main definitions

* `Value`, `Cell` — a text or nothing.
* `Record` — the values of one table row by column.
* `Records` — one row for each of several tables, by the text that names the table.
-/

namespace JoinSheet

/-- A text that is bound to a statement or read back from one; `none` is NULL. -/
abbrev Value := Option Text

/-- What a cell shows; `none` is an absent cell, which differs from one with an empty text. -/
abbrev Cell := Option Text

namespace Value

/-- What a form field means: an empty one has no value. -/
def ofInput (raw : Text) : Value := if raw = [] then none else some raw

/-- The form of a value in messages. -/
def toText : Value → Text
  | some t => t
  | none => "NULL"

end Value

/-- Values by column, in column order. -/
abbrev Record := Std.ExtTreeMap Text Value

/-- Rows by the text that names their table. -/
abbrev Records := Std.ExtTreeMap Text Record

/-- Whether no column has a value. -/
def Record.isAllNull (r : Record) : Bool := r.toList.all fun entry => entry.2.isNone

end JoinSheet
