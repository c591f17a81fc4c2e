import JoinSheet.Catalog
import JoinSheet.Sql.Select

/-!
# Join paths

The tables that a sheet shows are its base table and one further table for every chosen foreign key.
A key is looked for on the table that was joined last, then on the ones before it, and the table at
its far end joins the path.

## Main definitions

* `JoinPath` — a base table and the links that extend it.
* `JoinPath.push`, `JoinPath.resolve` — a path with one more key, and the path of several keys.
* `JoinPath.select` — the selection from the tables of a path, with no columns yet.
* `JoinPath.available` — the keys that could extend a path.
-/

namespace JoinSheet

/-- A foreign key, its number, and the table that it adds to a path. -/
structure Link where
  id : ConstraintId
  key : ForeignKey
  table : TableName
  deriving DecidableEq

/-- A base table and the links that extend it. -/
structure JoinPath where
  base : TableName
  links : List Link := []
  deriving DecidableEq

namespace JoinPath

/-- The tables of a path, the base first. -/
def tables (p : JoinPath) : List TableName := p.base :: p.links.map Link.table

/-- The keys of a path. -/
def keys (p : JoinPath) : List ForeignKey := p.links.map Link.key

/-- The numbers of the keys of a path. -/
def ids (p : JoinPath) : List ConstraintId := p.links.map Link.id

@[simp] theorem length_tables (p : JoinPath) : p.tables.length = p.links.length + 1 := by
  simp [tables]

/-- The key with a number on the first of some tables that has it, and the table at its far end. -/
def findKey (id : ConstraintId) : List TableName → CatalogAction (Option (ForeignKey × TableName))
  | [] => return none
  | t :: rest => do
    match ← Catalog.foreignKey? t id with
    | none => findKey id rest
    | some key =>
      match key.otherSide? t with
      | some far => return some (key, far)
      | none => throw (.internal (.keyDoesNotTouch key t))

/-- The path with one more key. The table at its far end must not be on the path already. -/
def push (p : JoinPath) (id : ConstraintId) : CatalogAction JoinPath := do
  match ← findKey id p.tables.reverse with
  | none => throw (.graph (.keyNotAttached id))
  | some (key, far) =>
    if far ∈ p.tables then throw (.graph (.alreadyJoined far))
    return { p with links := p.links ++ [⟨id, key, far⟩] }

/-- The path from a base table along the keys with these numbers. -/
def resolve (base : TableName) (ids : List ConstraintId) : CatalogAction JoinPath :=
  ids.foldlM push { base }

/-- The path with only its first keys. -/
def truncate (p : JoinPath) (n : Nat) : JoinPath := { p with links := p.links.take n }

/-- The selection from the tables of a path, with no columns yet. -/
def select (p : JoinPath) : Select :=
  { base := p.base, joins := p.links.map fun l => Join.along l.key l.table }

/-- Whether a key seen from one of its ends reaches a table off the path. -/
def reachesNew (p : JoinPath) (t : TableName) (key : ForeignKey) : Bool :=
  (key.otherSide? t).any fun far => far ∉ p.tables

/-- The keys that could extend a path: those that reach a new table, in the order of the tables they
are found on and then of their numbers, each number once. -/
def available (p : JoinPath) : CatalogAction (List (ConstraintId × ForeignKey)) :=
  p.tables.foldlM (fun found t => do
    let keys ← Catalog.foreignKeys t
    return keys.toList.foldl (fun found (id, key) =>
      if p.reachesNew t key && !found.any (·.1 == id) then found ++ [(id, key)] else found) found) []

end JoinPath

end JoinSheet
