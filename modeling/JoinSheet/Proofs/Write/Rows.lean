import JoinSheet.Proofs.Success
import JoinSheet.Write.Insert

/-!
# Rows and their columns

Rows are given by texts that name tables, and rows are filled by going over keys and columns one
after the other. Here is what a single row, or a single column of a row, comes to.

## Main definitions

* `Records.row?` — the row that is given for a table.
* `Insertion.supplied` — the values that keys have for a column, in order.
-/

namespace JoinSheet

/-! ## Rows by table -/

/-- A name is read as the table whose name it is. -/
theorem TableName.toText_of_read {name : Text} {t : TableName} (h : read name = .ok t) :
    name = t.toText := by
  unfold read at h
  split at h
  next schema table cut =>
    split at h
    · cases h
      exact Text.append_of_cut? cut
    · cases h
  · cases h

/-- The row that is given for a table. -/
def Records.row? (records : Records) (t : TableName) : Option Record :=
  if (TableName.read t.toText).toOption = some t then records[t.toText]? else none

theorem Records.row?_eq_some {records : Records} {t : TableName} {row : Record} :
    records.row? t = some row ↔
      ∃ name, records[name]? = some row ∧ TableName.read name = .ok t := by
  unfold row?
  simp only [Except.toOption_eq_some]
  constructor
  · intro h
    split at h
    next read => exact ⟨t.toText, h, read⟩
    · cases h
  · rintro ⟨name, h, read⟩
    obtain rfl := TableName.toText_of_read read
    rw [if_pos read]
    exact h

/-- No two names are read as the same table, so no row takes another one's place. -/
theorem getElem?_foldlM_read {l : List (Text × Record)} {start rows : TableRows}
    (distinct : (l.map Prod.fst).Nodup)
    (h : l.foldlM (fun rows (name, row) => do
      let table ← TableName.read name
      return rows.insert table row) start = (.ok rows : Except Error TableRows))
    (t : TableName) (row : Record) :
    rows[t]? = some row ↔ (∃ name, (name, row) ∈ l ∧ TableName.read name = .ok t) ∨
      start[t]? = some row ∧ ∀ name ∈ l.map Prod.fst, TableName.read name ≠ .ok t := by
  induction l generalizing start with
  | nil =>
    cases h
    simp
  | cons entry l ih =>
    obtain ⟨name, head⟩ := entry
    obtain ⟨fresh, distinct⟩ := List.nodup_cons.1 distinct
    rw [List.foldlM_cons] at h
    obtain ⟨_, step, h⟩ := Except.bind_eq_ok.1 h
    obtain ⟨u, read, step⟩ := Except.bind_eq_ok.1 step
    cases step
    rw [ih distinct h, Std.ExtTreeMap.getElem?_insert]
    simp only [Std.compare_eq_iff_eq]
    by_cases same : u = t
    · subst same
      have others : ∀ other ∈ l.map Prod.fst, TableName.read other ≠ .ok u := by
        intro other mem again
        rw [TableName.toText_of_read read, ← TableName.toText_of_read again] at fresh
        exact fresh mem
      simp only [if_true, Option.some.injEq, List.mem_cons, Prod.mk.injEq, List.map_cons]
      constructor
      · rintro (⟨other, mem, hr⟩ | ⟨rfl, -⟩)
        · exact .inl ⟨other, .inr mem, hr⟩
        · exact .inl ⟨name, .inl ⟨rfl, rfl⟩, read⟩
      · rintro (⟨other, ⟨rfl, rfl⟩ | mem, hr⟩ | ⟨-, none⟩)
        · exact .inr ⟨rfl, others⟩
        · exact .inl ⟨other, mem, hr⟩
        · exact absurd read (none name (.inl rfl))
    · have apart : TableName.read name ≠ .ok t := by
        rw [read]
        rintro ⟨⟩
        exact same rfl
      simp only [same, if_false, List.mem_cons, Prod.mk.injEq, List.map_cons]
      constructor
      · rintro (⟨other, mem, hr⟩ | ⟨hs, none⟩)
        · exact .inl ⟨other, .inr mem, hr⟩
        · refine .inr ⟨hs, ?_⟩
          rintro _ (rfl | mem)
          · exact apart
          · exact none _ mem
      · rintro (⟨other, ⟨rfl, rfl⟩ | mem, hr⟩ | ⟨hs, none⟩)
        · exact absurd hr apart
        · exact .inl ⟨other, mem, hr⟩
        · exact .inr ⟨hs, fun other mem => none other (.inr mem)⟩

theorem Records.getElem?_of_byTable {records : Records} {rows : TableRows}
    (h : records.byTable = .ok rows) (t : TableName) : rows[t]? = records.row? t := by
  have distinct : (records.toList.map Prod.fst).Nodup := by
    rw [Std.ExtTreeMap.map_fst_toList_eq_keys]
    exact Std.ExtTreeMap.nodup_keys
  apply Option.ext
  intro row
  rw [getElem?_foldlM_read distinct h, Records.row?_eq_some]
  simp [Std.ExtTreeMap.mem_toList_iff_getElem?_eq_some]

/-- A row for the table has a value in some column. -/
def Records.HasValue (records : Records) (t : TableName) : Prop :=
  ∃ row, records.row? t = some row ∧ ∃ (c v : Text), row[c]? = some (some v)

theorem Record.isAllNull_eq_false {row : Record} :
    row.isAllNull = false ↔ ∃ (c v : Text), row[c]? = some (some v) := by
  simp only [isAllNull, List.all_eq_false, Bool.not_eq_true, Option.isNone_eq_false_iff,
    Prod.exists, Std.ExtTreeMap.mem_toList_iff_getElem?_eq_some]
  constructor
  · rintro ⟨c, v, h, some⟩
    obtain ⟨v, rfl⟩ := Option.isSome_iff_exists.1 some
    exact ⟨c, v, h⟩
  · rintro ⟨c, v, h⟩
    exact ⟨c, some v, h, rfl⟩

/-- Of the rows, an insertion keeps those with a value. -/
theorem getElem?_filter_isAllNull {rows : TableRows} {t : TableName} {row : Record} :
    (rows.filter fun _ row => !row.isAllNull)[t]? = some row ↔
      rows[t]? = some row ∧ ∃ (c v : Text), row[c]? = some (some v) := by
  rw [Std.ExtTreeMap.getElem?_filter', Option.filter_eq_some_iff, Bool.not_eq_true',
    Record.isAllNull_eq_false]

/-! ## Columns of a row -/

theorem Record.getElem?_present (row : Record) (c : Text) :
    row.present[c]? = row[c]?.join.map some := by
  rw [Record.present, Std.ExtTreeMap.getElem?_filter']
  rcases row[c]? with _ | _ | v <;> rfl

/-- If each step of a loop overwrites a column with the last of some values, the loop overwrites it
with the last of all of them. -/
theorem getElem?_foldl {α : Type} {f : Record → α → Record} {offers : α → List Text} {c : Text}
    (step : ∀ row a, (f row a)[c]? = ((offers a).getLast?.map some).or row[c]?) (l : List α)
    (row : Record) :
    (l.foldl f row)[c]? = ((l.flatMap offers).getLast?.map some).or row[c]? := by
  induction l generalizing row with
  | nil => rfl
  | cons a l ih =>
    rw [List.foldl_cons, ih, step, List.flatMap_cons, List.getLast?_append, Option.map_or,
      Option.or_assoc]

/-- The values that a key has for the column `c`, in the order of its columns. -/
def ForeignKey.supplied (key : ForeignKey) (known : Record) (c : Text) : List Text :=
  key.columnPairs.filterMap fun (source, target) =>
    if source = c then known[target]?.join else none

theorem Record.getElem?_fill (row known : Record) (key : ForeignKey) (c : Text) :
    (row.fill known key)[c]? = ((key.supplied known c).getLast?.map some).or row[c]? := by
  unfold fill ForeignKey.supplied
  rw [List.filterMap_eq_flatMap_toList]
  apply getElem?_foldl
  rintro row ⟨source, target⟩
  rcases h : known[target]? with _ | _ | v
  · simp [h]
  · simp [h]
  · by_cases same : source = c <;> simp [h, Std.ExtTreeMap.getElem?_insert, same]

/-- The columns of an answered row. A row that is too short leaves the last columns out. -/
theorem getElem?_foldl_insert {l : List (Text × Value)} (distinct : (l.map Prod.fst).Nodup)
    (start : Record) (c : Text) :
    (l.foldl (fun back (name, v) => back.insert name v) start)[c]? =
      (l.lookup c).or start[c]? := by
  induction l generalizing start with
  | nil => rfl
  | cons entry l ih =>
    obtain ⟨name, v⟩ := entry
    obtain ⟨fresh, distinct⟩ := List.nodup_cons.1 distinct
    rw [List.foldl_cons, ih distinct, Std.ExtTreeMap.getElem?_insert]
    simp only [Std.compare_eq_iff_eq]
    by_cases same : name = c
    · subst same
      have none : l.lookup name = none := by
        rw [List.lookup_eq_none_iff]
        intro entry mem
        have : entry.1 ∈ l.map Prod.fst := List.mem_map_of_mem mem
        simp only [bne_iff_ne]
        rintro rfl
        exact fresh this
      simp [none]
    · rw [List.lookup_cons, beq_eq_false_iff_ne.2 (Ne.symm same)]
      simp [same]

end JoinSheet
