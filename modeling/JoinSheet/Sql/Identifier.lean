import JoinSheet.Error

/-!
# Identifiers

An identifier is a column or a table with its qualifiers. Each of its segments stands between double
quotes in a statement, so no segment may contain one.

## Main definitions

* `Identifier` — segments that may be quoted.
* `Identifier.read` — the identifier that a text with points between the segments spells.
* `Identifier.render` — its form in a statement.
-/

namespace JoinSheet

/-- A text that may stand between double quotes. -/
def IsSegment (s : Text) : Prop := s ≠ [] ∧ '"' ∉ s ∧ '.' ∉ s

/-- The quotable segments of a name, at least one of them. -/
structure Identifier where
  segments : List Text
  nonempty : segments ≠ []
  quotable : ∀ s ∈ segments, IsSegment s
  deriving DecidableEq

namespace Identifier

/-- The identifier that a text spells. Its segments are separated by points. -/
def read (t : Text) : Except Error Identifier :=
  if t = [] then .error (.unsafeSql .emptyIdentifier)
  else if hq : '"' ∈ t then .error (.unsafeSql (.quoteInIdentifier t))
  else if hs : ∀ s ∈ t.split '.', s ≠ [] then
    .ok ⟨t.split '.', Text.split_ne_nil '.' t, fun s hmem =>
      ⟨hs s hmem, fun h => hq (Text.mem_of_mem_split hmem h).1,
        fun h => (Text.mem_of_mem_split hmem h).2 rfl⟩⟩
  else .error (.unsafeSql (.emptySegment t))

/-- A segment between double quotes. -/
def quote (segment : Text) : Text := '"' :: segment ++ ['"']

/-- The form of an identifier in a statement. -/
def render (i : Identifier) : Text := Text.joined "." (i.segments.map quote)

/-- The identifier of a table. -/
def ofTable (t : TableName) : Except Error Identifier := read t.toText

end Identifier

end JoinSheet
