import JoinSheet.Text.CharSet

/-!
# Named sets of characters

The tables of this folder list sets of characters with their names. A set is written down by the
lengths of the stretches of code points that lack and hold it, in turn.

## Main definitions

* `Unicode.numerals`, `Unicode.ofRuns` — reading the written forms.
* `Unicode.looseName` — names as they are compared.
* `NamedSet`, `NamedSet.find?` — sets with names, and how they are looked up.
-/

namespace JoinSheet

namespace Unicode

/-- The words of a text that separates them by spaces and line breaks. -/
def words (s : String) : List Text :=
  (s.toList.splitOnP fun c => c = ' ' || c = '\n').filter (· ≠ [])

/-- The decimal numerals among the words of a text. -/
def numerals (s : String) : List Nat :=
  (words s).map fun digits => Nat.ofDigitChars 10 digits 0

/-- The edges of stretches that follow each other from a place on, by their lengths. -/
def edgesFrom (place : Nat) : List Nat → List Nat
  | [] => []
  | run :: runs => (place + run) :: edgesFrom (place + run) runs

/-- The set with these stretches, the first of which lacks it. -/
def ofRuns (written : String) : CharSet := ⟨edgesFrom 0 (numerals written)⟩

/-- A name as it is compared: in lower case, without blanks, hyphens, underscores, characters beyond
ASCII, and a leading `is`. What is left of `isc` keeps its start, since `c` names something else. -/
def looseName (name : Text) : Text :=
  let kept (t : Text) : Text :=
    Text.lower (t.filter fun c => c.toNat < 128 && c != ' ' && c != '_' && c != '-')
  match name.take 2 with
  | [i, s] =>
    if Text.eqIgnoringCase [i, s] "is" then
      let rest := kept (name.drop 2)
      if rest = ['c'] then "isc" else rest
    else kept name
  | _ => kept name

end Unicode

/-- A set of characters with its names and its written form. -/
structure NamedSet where
  names : List String
  written : String

namespace NamedSet

/-- The characters of a named set. -/
def set (s : NamedSet) : CharSet := Unicode.ofRuns s.written

/-- Whether one of some names is loosely equal to a name. -/
def isNamed (names : List String) (loose : Text) : Bool :=
  names.any fun name => Unicode.looseName name.toList == loose

/-- The set of a table with a loose name. -/
def find? (table : List NamedSet) (loose : Text) : Option NamedSet :=
  table.find? fun s => isNamed s.names loose

/-- The characters of the set whose first name is given, none if the table lacks it. -/
def first (table : List NamedSet) (name : String) : CharSet :=
  ((table.find? fun s => s.names.head? == some name).map set).getD .none

end NamedSet

end JoinSheet
