import JoinSheet.Value

/-!
# Parameters

The values bound to a statement, by their position or by the name of their placeholder.

## Main definitions

* `Params` — the values.
* `Params.page` — the two parameters that bound a page.
* `Params.toText` — their form in logs.
-/

namespace JoinSheet

/-- The values bound to a statement. -/
inductive Params where
  | none
  /-- Values of `$1`, `$2`, and so on. -/
  | positional (values : List Value)
  /-- Values of the placeholders `:name`. -/
  | named (values : Record)
  deriving DecidableEq

namespace Params

/-- The values of `LIMIT $1 OFFSET $2`. -/
def page (limit offset : Nat) : Params :=
  positional [some (Text.ofNat limit), some (Text.ofNat offset)]

/-- Whether no value is bound. -/
def isEmpty : Params → Bool
  | none => true
  | positional values => values.isEmpty
  | named values => values.isEmpty

/-- The form of parameters in logs. -/
def toText : Params → Text
  | none => "[]"
  | positional values =>
    "[" ++ Text.joined ", " (values.mapIdx fun i v => '$' :: Text.ofNat (i + 1) ++ '=' :: v.toText) ++
      "]"
  | named values =>
    "[" ++ Text.joined ", " (values.toList.map fun (name, v) => ':' :: name ++ '=' :: v.toText) ++ "]"

end Params

end JoinSheet
