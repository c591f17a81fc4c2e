import JoinSheet.Proofs.Sql.Fragment
import JoinSheet.Sql.Select

/-!
# The tables that a statement reads

The tables of a selection stand after `FROM` in the order in which they are joined. The name of a
column starts with the name of its table, so a condition shows the tables that it ties together.

## Main definitions

* `Join.Ties` — a condition between columns of two tables.
* `Join.Introduces` — a clause that joins a table to one of some others.
* `Join.Chain` — clauses that join one table after the other.
* `Select.narrowing` — what stands after the tables.

## Main statements

* `Identifier.render_column` — the name of a column starts with that of its table.
* `Join.introduces_along` — the clause of a join along a foreign key.
-/

namespace JoinSheet

/-! ## Names of columns -/

namespace Text

theorem joined_append (separator : Text) {first rest : List Text} (hf : first ≠ [])
    (hr : rest ≠ []) : joined separator (first ++ rest) =
      joined separator first ++ separator ++ joined separator rest := by
  obtain ⟨s, rest, rfl⟩ := List.exists_cons_of_ne_nil hr
  induction first with
  | nil => exact absurd rfl hf
  | cons part parts ih =>
    cases parts with
    | nil =>
      have alone : joined separator [part] = part := List.intercalate_singleton
      rw [List.singleton_append, joined_cons_cons, alone]
    | cons part' parts =>
      have later := ih (List.cons_ne_nil part' parts)
      rw [List.cons_append] at later
      rw [List.cons_append, List.cons_append, joined_cons_cons, joined_cons_cons, later]
      simp only [List.append_assoc]

end Text

namespace Identifier

variable {i : Identifier} {t : TableName} {text : Text}

/-- A text spells an identifier if it has no quote and no empty segment. -/
theorem exists_read_eq_ok :
    (∃ i, read text = .ok i) ↔ '"' ∉ text ∧ ∀ s ∈ text.split '.', s ≠ [] := by
  unfold read
  split
  next empty => simp [empty, Text.split]
  · split
    next quote => simp [quote]
    next plain =>
      split
      next filled => exact iff_of_true ⟨_, rfl⟩ ⟨plain, filled⟩
      next unfilled => simp [unfilled]

/-- The name of a column starts with the name of its table. -/
theorem render_column {c : Text} (h : read (t.column c) = .ok i) :
    ∃ table column, ofTable t = .ok table ∧ read c = .ok column ∧
      i.render = table.render ++ '.' :: column.render := by
  have segments := Sql.segments_of_read h
  obtain ⟨plain, filled⟩ := exists_read_eq_ok.1 ⟨i, h⟩
  rw [TableName.column, List.mem_append, List.mem_cons, not_or, not_or] at plain
  rw [TableName.column, Text.split_append] at filled segments
  obtain ⟨table, readTable⟩ := exists_read_eq_ok.2
    ⟨plain.1, fun s mem => filled s (List.mem_append_left _ mem)⟩
  obtain ⟨column, readColumn⟩ := exists_read_eq_ok.2
    ⟨plain.2.2, fun s mem => filled s (List.mem_append_right _ mem)⟩
  refine ⟨table, column, readTable, readColumn, ?_⟩
  have apart : Text.joined "." (table.segments.map quote ++ column.segments.map quote) = _ :=
    Text.joined_append "." (by simp [table.nonempty]) (by simp [column.nonempty])
  rw [render, segments, ← Sql.segments_of_read readTable, ← Sql.segments_of_read readColumn,
    List.map_append]
  refine apart.trans ?_
  simp [render]

end Identifier

/-! ## Joins -/

/-- The table at the far end of a key and the table that it is seen from are the two ends. -/
theorem ForeignKey.ends_of_otherSide? {key : ForeignKey} {near far : TableName}
    (h : key.otherSide? near = some far) :
    (key.source = far ∧ key.target = near) ∨ (key.source = near ∧ key.target = far) := by
  unfold otherSide? at h
  split at h
  next source =>
    cases h
    exact .inr ⟨source, rfl⟩
  · split at h
    next target =>
      cases h
      exact .inl ⟨rfl, target⟩
    · cases h

namespace Join

/-- The condition equates a column of the table `t` and a column of the table `u`. -/
def Ties (t u : TableName) (condition : Text) : Prop :=
  ∃ (left right c d : Identifier), Identifier.ofTable t = .ok left ∧
    Identifier.ofTable u = .ok right ∧
    condition = left.render ++ '.' :: c.render ++ " = " ++ right.render ++ '.' :: d.render

/-- The clause joins the table `t` on conditions between its columns and those of one of the tables
`known`. -/
def Introduces (known : List TableName) (t : TableName) (clause : Text) : Prop :=
  ∃ u ∈ known, ∃ (name : Identifier) (conditions : List Text), Identifier.ofTable t = .ok name ∧
    conditions ≠ [] ∧ ((∀ x ∈ conditions, Ties t u x) ∨ ∀ x ∈ conditions, Ties u t x) ∧
    clause = " LEFT JOIN " ++ name.render ++ " ON " ++ Text.joined " AND " conditions

/-- After the table `base`, the clauses join further tables one after the other, each to one of
those before it. `tables` are all of them. -/
inductive Chain (base : TableName) : (tables : List TableName) → (clauses : List Text) → Prop where
  | base : Chain base [base] []
  | join {known : List TableName} {clauses : List Text} {t : TableName} {clause : Text}
      (before : Chain base known clauses) (introduces : Introduces known t clause) :
      Chain base (known ++ [t]) (clauses ++ [clause])

theorem ties_of_renderPair {t u : TableName} {c d condition : Text}
    (h : renderPair (t.column c, u.column d) = .ok condition) : Ties t u condition := by
  obtain ⟨left, hl, h⟩ := Except.bind_eq_ok.1 h
  obtain ⟨right, hr, h⟩ := Except.bind_eq_ok.1 h
  cases h
  obtain ⟨t', c', ht, -, left⟩ := Identifier.render_column hl
  obtain ⟨u', d', hu, -, right⟩ := Identifier.render_column hr
  exact ⟨t', u', c', d', ht, hu, by simp [left, right]⟩

theorem ties_along {key : ForeignKey} {t : TableName} {conditions : List Text}
    (h : (along key t).pairs.mapM renderPair = .ok conditions) :
    ∀ x ∈ conditions, Ties key.source key.target x := by
  intro x mem
  obtain ⟨pair, hp, h⟩ := Except.exists_of_mem_mapM h mem
  obtain ⟨⟨c, d⟩, -, rfl⟩ := List.mem_map.1 hp
  exact ties_of_renderPair h

/-- A join along a key ties the table that it adds to the table at the other end of the key. -/
theorem introduces_along {key : ForeignKey} {known : List TableName} {t u : TableName}
    {clause : Text} (mem : u ∈ known) (far : key.otherSide? u = some t)
    (h : (along key t).render = .ok clause) : Introduces known t clause := by
  unfold render at h
  split at h
  · cases h
  next some =>
    obtain ⟨conditions, hc, h⟩ := Except.bind_eq_ok.1 h
    obtain ⟨name, hn, h⟩ := Except.bind_eq_ok.1 h
    cases h
    have tied := ties_along hc
    refine ⟨u, mem, name, conditions, hn, ?_, ?_, rfl⟩
    · rintro rfl
      exact some (List.forall₂_nil_right_iff.1 (Except.mapM_eq_ok.1 hc))
    -- The conditions tie the key's source to its target, whichever of them is the new table.
    · obtain ⟨rfl, rfl⟩ | ⟨rfl, rfl⟩ := ForeignKey.ends_of_otherSide? far
      · exact .inl tied
      · exact .inr tied

end Join

namespace Select

/-- The conditions, the order and the page of a selection, which stand after its tables. -/
def narrowing (s : Select) : Text :=
  renderPart " WHERE " " AND " (s.filters.map Clause.render) ++
    renderPart " ORDER BY " ", " (s.order.map OrderTerm.render) ++
    if s.paginate then (" LIMIT $1 OFFSET $2" : Text) else []

theorem renderSource_eq_ok {s : Select} {text : Text} : s.renderSource = .ok text ↔
    ∃ base clauses, Identifier.ofTable s.base = .ok base ∧
      s.joins.mapM Join.render = .ok clauses ∧
      text = " FROM " ++ base.render ++ clauses.flatten ++ s.narrowing := by
  unfold renderSource narrowing
  simp only [Except.bind_eq_ok]
  constructor
  · rintro ⟨base, hb, clauses, hc, h⟩
    cases h
    exact ⟨base, clauses, hb, hc, by simp only [List.append_assoc]⟩
  · rintro ⟨base, clauses, hb, hc, rfl⟩
    exact ⟨base, hb, clauses, hc, by simp only [List.append_assoc]; rfl⟩

/-- The statement of a page is the columns that it reads, followed by what does not depend on them. -/
theorem renderPage_eq_ok {s : Select} {columns : List Projection} {text : Text} :
    s.renderPage columns = .ok text ↔ columns ≠ [] ∧ ∃ source,
      ({ s with paginate := true } : Select).renderSource = .ok source ∧
        text = "SELECT " ++ Text.joined ", " (columns.map Projection.render) ++ source := by
  unfold renderPage render
  dsimp only
  split
  next none => exact ⟨nofun, fun h => absurd none h.1⟩
  next some =>
    rw [Except.bind_eq_ok]
    constructor
    · rintro ⟨source, rendered, h⟩
      cases h
      exact ⟨some, source, rendered, rfl⟩
    · rintro ⟨-, source, rendered, rfl⟩
      exact ⟨source, rendered, rfl⟩

end Select

end JoinSheet
