import JoinSheet.Value

/-!
# Placeholders

A statement may hold placeholders `:name` for values that are bound by name. A database that binds
values by number gets `$1`, `$2` and so on instead, numbered in the order in which the names first
occur. What stands between quotes is left alone, and so is `::`, which casts.

## Main definitions

* `Sql.Piece` — a placeholder, or a character of the statement.
* `Sql.pieces` — the pieces of a statement.
* `Sql.numbered` — the statement with numbers for names, and the values in the order of the numbers.
-/

namespace JoinSheet.Sql

/-- Letters of ASCII and the underscore. -/
def isNameChar (c : Char) : Bool := c.isAlpha || c = '_'

/-- A placeholder, or a character of the statement. -/
inductive Piece where
  | plain (c : Char)
  | named (name : Text)
  deriving DecidableEq, Repr

/-- Where a character of a statement stands. -/
inductive Position where
  /-- Within quotes, which the given character closes. -/
  | quoted (closing : Char)
  /-- Outside of quotes, after a colon or not. -/
  | outside (afterColon : Bool)
  deriving DecidableEq, Repr

namespace Piece

/-- How a piece is written. -/
def text : Piece → Text
  | plain c => [c]
  | named name => ':' :: name

end Piece

/-- The pieces of what follows at a position of a statement. -/
def piecesAt : Position → Text → List Piece
  | _, [] => []
  | .quoted closing, c :: rest =>
    .plain c :: piecesAt (if c = closing then .outside false else .quoted closing) rest
  | .outside afterColon, c :: rest =>
    if c = '"' ∨ c = '\'' then .plain c :: piecesAt (.quoted c) rest
    else if c = ':' ∧ afterColon = false ∧ rest.head?.any isNameChar then
      .named (rest.takeWhile isNameChar) :: piecesAt (.outside false) (rest.dropWhile isNameChar)
    else .plain c :: piecesAt (.outside (c = ':')) rest
termination_by _ t => t.length
decreasing_by
  all_goals simp only [List.length_cons]
  all_goals have := (List.dropWhile_sublist isNameChar (l := rest)).length_le
  all_goals omega

/-- The pieces of a statement. -/
def pieces (sql : Text) : List Piece := piecesAt (.outside false) sql

/-- The pieces of a statement spell it. -/
theorem flatMap_text_piecesAt (p : Position) (sql : Text) :
    (piecesAt p sql).flatMap Piece.text = sql := by
  fun_induction piecesAt p sql <;> simp_all [Piece.text]

/-- The names among pieces in the order of their first occurrences, `known` being the names before. -/
def namesFrom (known : List Text) : List Piece → List Text
  | [] => known
  | .plain _ :: rest => namesFrom known rest
  | .named name :: rest => namesFrom (if name ∈ known then known else known ++ [name]) rest

/-- The names among pieces in the order of their first occurrences, each once. -/
def names (pieces : List Piece) : List Text := namesFrom [] pieces

/-- How a piece is written with numbers for names. -/
def Piece.numberedText (names : List Text) : Piece → Text
  | plain c => [c]
  | named name => '$' :: Text.ofNat (names.idxOf name + 1)

/-- The statement with numbers for names, and the values in the order of the numbers. A name that has
no value is bound to NULL. -/
def numbered (sql : Text) (values : Record) : Text × List Value :=
  let names := names (pieces sql)
  ((pieces sql).flatMap (Piece.numberedText names), names.map fun name => values[name]?.join)

end JoinSheet.Sql
