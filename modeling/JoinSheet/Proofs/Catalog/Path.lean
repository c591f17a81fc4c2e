import JoinSheet.JoinPath
import JoinSheet.Proofs.Catalog.Memory
import JoinSheet.Proofs.Sql.Source
import Mathlib.Data.List.Nodup

/-!
# Join paths that have been resolved

Each link of a path was found by looking up its number, and the catalog recalls what it looked up.
So a path that has been resolved is resolved again from its numbers, at any later time and without
asking the database. Every part from the base on has been resolved as well.

## Main definitions

* `JoinPath.Attaches` — a link adds a new table to one of the tables of a path.
* `JoinPath.Resolved` — a path whose links attach one after the other and are recalled by a catalog.

## Main statements

* `JoinPath.grows_resolve` — resolving a path leads to a resolved path.
* `JoinPath.Resolved.recalls` — a resolved path is resolved again without asking.
* `JoinPath.Resolved.chain` — the rendered clauses of a resolved path join its tables in order.
-/

namespace JoinSheet

namespace JoinPath

variable {c c' : Catalog} {p : JoinPath} {l : Link} {id : ConstraintId} {ids : List ConstraintId}

/-! ## One link more -/

/-- The path with one more link. -/
def extend (p : JoinPath) (l : Link) : JoinPath := { p with links := p.links ++ [l] }

@[simp] theorem base_extend (p : JoinPath) (l : Link) : (p.extend l).base = p.base := rfl

@[simp] theorem links_extend (p : JoinPath) (l : Link) : (p.extend l).links = p.links ++ [l] := rfl

@[simp] theorem tables_extend (p : JoinPath) (l : Link) :
    (p.extend l).tables = p.tables ++ [l.table] := by
  simp [tables]

@[simp] theorem ids_extend (p : JoinPath) (l : Link) : (p.extend l).ids = p.ids ++ [l.id] := by
  simp [ids]

/-- The link's key has a table of the path at one end. The link's table is at the other end, and not
on the path. -/
def Attaches (p : JoinPath) (l : Link) : Prop :=
  l.table ∉ p.tables ∧ ∃ t ∈ p.tables, l.key.otherSide? t = some l.table

theorem memoized_findKey (id : ConstraintId) (tables : List TableName) :
    Memoized (findKey id tables) := by
  induction tables with
  | nil => exact memoized_pure none
  | cons t tables ih =>
    refine (Catalog.memoized_foreignKey? t id).bind fun found => ?_
    cases found with
    | none => exact ih
    | some key =>
      dsimp only
      split
      · exact memoized_pure _
      · exact memoized_throw _

/-- The key that is found leads from one of the tables to the table that is told with it. -/
theorem grows_findKey (id : ConstraintId) (tables : List TableName) (c : Catalog) :
    Grows (findKey id tables) c fun found _ => ∀ key far, found = some (key, far) →
      ∃ t ∈ tables, key.otherSide? t = some far := by
  induction tables generalizing c with
  | nil => exact grows_pure nofun
  | cons t tables ih =>
    refine (Catalog.memoized_foreignKey? t id c).bind fun found c' _ _ => ?_
    cases found with
    | none =>
      refine (ih c').mono fun found _ _ reached key far h => ?_
      obtain ⟨u, mem, reaches⟩ := reached key far h
      exact ⟨u, List.mem_cons_of_mem t mem, reaches⟩
    | some key =>
      dsimp only
      split
      next far reaches =>
        refine grows_pure ?_
        rintro _ _ ⟨⟩
        exact ⟨t, List.mem_cons_self, reaches⟩
      · exact grows_throw _

theorem memoized_push (p : JoinPath) (id : ConstraintId) : Memoized (push p id) := by
  refine (memoized_findKey id p.tables.reverse).bind fun found => ?_
  cases found with
  | none => exact memoized_throw _
  | some found =>
    obtain ⟨key, far⟩ := found
    dsimp only
    split
    · exact (memoized_throw _).bind fun _ => memoized_pure _
    · exact memoized_pure _

/-- A path is extended by a link that attaches to it. -/
theorem grows_push (p : JoinPath) (id : ConstraintId) (c : Catalog) :
    Grows (push p id) c fun q _ => ∃ l, q = p.extend l ∧ p.Attaches l ∧ l.id = id := by
  refine (grows_findKey id p.tables.reverse c).bind fun found c' _ h => ?_
  cases found with
  | none => exact grows_throw _
  | some found =>
    obtain ⟨key, far⟩ := found
    dsimp only
    split
    · exact grows_throw_bind _
    next new =>
      obtain ⟨t, mem, reaches⟩ := h key far rfl
      exact grows_pure ⟨⟨id, key, far⟩, rfl, ⟨new, t, List.mem_reverse.1 mem, reaches⟩, rfl⟩

theorem memoized_resolve (base : TableName) (ids : List ConstraintId) :
    Memoized (resolve base ids) :=
  memoized_foldlM memoized_push ids _

theorem memoized_available (p : JoinPath) : Memoized p.available :=
  memoized_foldlM (fun _ t => (Catalog.memoized_foreignKeys t).bind fun _ => memoized_pure _) _ _

/-! ## Resolved paths -/

/-- The links of the path attach one after the other. The catalog recalls each of them. -/
inductive Resolved (c : Catalog) : JoinPath → Prop where
  | base (base : TableName) : Resolved c { base }
  | extend {p : JoinPath} {l : Link} (before : Resolved c p) (attaches : p.Attaches l)
      (recalled : c.Recalls (p.push l.id) (p.extend l)) : Resolved c (p.extend l)

theorem Resolved.mono (h : p.Resolved c) (grown : c ≤ c') : p.Resolved c' := by
  induction h with
  | base base => exact .base base
  | extend _ attaches recalled ih => exact .extend ih attaches (recalled.mono grown)

/-- Resolving further keys leads to a resolved path. -/
theorem grows_foldlM_push (ids : List ConstraintId) (h : p.Resolved c) :
    Grows (ids.foldlM push p) c fun q c' => q.Resolved c' := by
  induction ids generalizing p c with
  | nil => exact grows_pure h
  | cons id ids ih =>
    rw [List.foldlM_cons]
    -- A link both attaches to the path and is recalled, and the links before it still are.
    refine ((memoized_push p id c).and (grows_push p id c)).bind fun q c' grown pushed => ?_
    obtain ⟨recalled, l, rfl, attaches, rfl⟩ := pushed
    exact ih (.extend (h.mono grown) attaches recalled)

/-- Resolving keys from a base leads to a resolved path. -/
theorem grows_resolve (base : TableName) (ids : List ConstraintId) (c : Catalog) :
    Grows (resolve base ids) c fun q c' => q.Resolved c' :=
  grows_foldlM_push ids (.base base)

namespace Resolved

/-- A resolved path is resolved again without asking. -/
theorem recalls (h : p.Resolved c) : c.Recalls (resolve p.base p.ids) p := by
  induction h with
  | base base => exact .pure c _
  | @extend p l _ _ recalled ih =>
    have split : resolve (p.extend l).base (p.extend l).ids =
        resolve p.base p.ids >>= fun q => push q l.id := by
      rw [ids_extend, resolve, List.foldlM_append]
      simp [resolve]
    rw [split]
    exact ih.bind recalled

/-- The first links of a resolved path are a resolved path. -/
theorem truncate (h : p.Resolved c) (n : Nat) : (p.truncate n).Resolved c := by
  induction h with
  | base base =>
    have same : JoinPath.truncate { base } n = { base } := by simp [JoinPath.truncate]
    rw [same]
    exact .base base
  | @extend p l before attaches recalled ih =>
    by_cases within : n ≤ p.links.length
    · have same : (p.extend l).truncate n = p.truncate n := by
        simp [JoinPath.truncate, JoinPath.extend, List.take_append_of_le_length within]
      rwa [same]
    · have same : (p.extend l).truncate n = p.extend l := by
        have full : p.links.length + 1 ≤ n := Nat.lt_of_not_le within
        simp [JoinPath.truncate, JoinPath.extend, List.take_of_length_le, full]
      rw [same]
      exact .extend before attaches recalled

theorem nodup_tables (h : p.Resolved c) : p.tables.Nodup := by
  induction h with
  | base base => simp [tables]
  | extend _ attaches _ ih =>
    rw [tables_extend]
    exact ih.append (List.pairwise_singleton _ _) (by simpa using attaches.1)

/-- Each key of a resolved path ties the table that it adds to one of the tables before. -/
theorem exists_otherSide? (h : p.Resolved c) {i : Nat} (hl : p.links[i]? = some l) :
    ∃ t ∈ p.tables.take (i + 1), l.key.otherSide? t = some l.table := by
  induction h with
  | base base => cases hl
  | @extend p l' _ attaches _ ih =>
    rw [links_extend] at hl
    rw [tables_extend]
    -- The link is one of those before, or else the last one.
    by_cases before : i < p.links.length
    · rw [List.getElem?_append_left before] at hl
      obtain ⟨t, mem, reaches⟩ := ih hl
      rw [List.take_append_of_le_length (by simpa using Nat.le_of_lt before)]
      exact ⟨t, mem, reaches⟩
    · rw [List.getElem?_append_right (Nat.le_of_not_lt before), List.getElem?_singleton] at hl
      split at hl
      next last =>
        cases hl
        have length : p.tables.length = i + 1 := by
          rw [length_tables]
          omega
        rw [List.take_left' length]
        exact attaches.2
      · cases hl

/-- The rendered clauses of a resolved path join its tables in order. -/
theorem chain (h : p.Resolved c) {clauses : List Text}
    (rendered : p.select.joins.mapM Join.render = .ok clauses) :
    Join.Chain p.base p.tables clauses := by
  induction h generalizing clauses with
  | base base =>
    cases rendered
    exact .base
  | @extend p l _ attaches _ ih =>
    have split : (p.extend l).select.joins = p.select.joins ++ [Join.along l.key l.table] := by
      simp [select]
    rw [split, List.mapM_append] at rendered
    obtain ⟨first, before, rendered⟩ := Except.bind_eq_ok.1 rendered
    obtain ⟨_, rest, rendered⟩ := Except.bind_eq_ok.1 rendered
    cases rendered
    obtain ⟨clause, _, last, none, rfl⟩ := List.forall₂_cons_left_iff.1 (Except.mapM_eq_ok.1 rest)
    obtain rfl := List.forall₂_nil_left_iff.1 none
    obtain ⟨t, mem, reaches⟩ := attaches.2
    rw [tables_extend]
    exact .join (ih before) (Join.introduces_along mem reaches last)

end Resolved

end JoinPath

end JoinSheet
