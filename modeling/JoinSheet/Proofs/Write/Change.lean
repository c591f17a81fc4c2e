import JoinSheet.Proofs.Sql.Binding
import JoinSheet.Proofs.Sql.Source
import JoinSheet.Write.Update

/-!
# The change of one row

A row is found by the key that is given for its table, and of its values those are written that
differ from the key's. Whether a value differs is decided before an empty text becomes NULL, so a
column of the key can be repeated in the row but not be changed by it. The names of the table and of
its columns are looked at only if something changes.

## Main definitions

* `Record.Changes` — the columns of a row that differ from its key.
* `Record.IsKey` — a record that can find a row.
* `Change.Refused` — rows for which no statement can be built, and why.
* `Change.Writes` — the statement that writes exactly what differs.

## Main statements

* `Change.refused_of_ofRow?_eq_error`, `Change.not_refused_of_ofRow?_eq_ok` — the change of a row is
  there exactly if it is not refused.
* `Change.ofRow?_eq_ok` — the change of one row.
-/

namespace JoinSheet

open Sql (IsColumn placeholder)

variable {t : TableName} {key row : Record} {rows : TableRows}

/-! ## Rows and their keys -/

/-- The row has a value for the column that is not the one of the key. -/
def Record.Changes (key row : Record) (c : Text) : Prop := ∃ v, row[c]? = some v ∧ key[c]? ≠ some v

/-- A row can be found by a record that has columns and a value for each of them. -/
structure Record.IsKey (key : Record) : Prop where
  ne_empty : key ≠ ∅
  present : ∀ c : Text, key[c]? ≠ some none

/-! ## Statements that cannot be built -/

/-- What is wrong with the names in a statement that writes to a table: with the table's own, or
with that of a column. -/
inductive Sql.Misnamed (t : TableName) (written : Text → Prop) : Error → Prop where
  | quote (mem : '"' ∈ t.toText) :
      Misnamed t written (.unsafeSql (.quoteInIdentifier t.toText))
  | segment (mem : [] ∈ t.toText.split '.') :
      Misnamed t written (.unsafeSql (.emptySegment t.toText))
  | column {c : Text} (mem : written c) (invalid : ¬IsColumn c) :
      Misnamed t written (.unsafeSql (.columnName c))

theorem Sql.misnamed_of_ofTable_eq_error {written : Text → Prop} {e : Error}
    (h : Identifier.ofTable t = .error e) : Misnamed t written e := by
  unfold Identifier.ofTable Identifier.read at h
  split at h
  next empty => simp [TableName.toText] at empty
  split at h
  next quote =>
    cases h
    exact .quote quote
  split at h
  · cases h
  next unfilled =>
    cases h
    exact .segment (by simpa using unfilled)

theorem Sql.exists_of_mapM_writable_eq_error {names : List Text} {e : Error}
    (h : names.mapM writable = .error e) :
    ∃ c ∈ names, ¬IsColumn c ∧ e = .unsafeSql (.columnName c) := by
  obtain ⟨c, mem, unwritable⟩ := Except.exists_of_mapM_eq_error h
  have invalid : ¬IsColumn c := by
    intro valid
    rw [writable_eq_ok.2 ⟨rfl, valid⟩] at unwritable
    cases unwritable
  rw [writable, if_neg (by simpa [IsColumn] using invalid)] at unwritable
  cases unwritable
  exact ⟨c, mem, invalid, rfl⟩

/-- With something to set and something to find the row by, a statement cannot be built if a column
is both, or if a name may not enter a statement. -/
theorem Sql.update_eq_error {set : Record} {e : Error} (changed : set ≠ ∅) (found : key ≠ ∅)
    (h : update t set key = .error e) :
    (∃ c ∈ set, c ∈ key ∧ e = .unsafeSql (.keyUpdated c)) ∨
      Misnamed t (fun c => c ∈ set ∨ c ∈ key) e := by
  rw [update, if_neg (by simpa using changed), if_neg (by simpa using found)] at h
  split at h
  next c shared =>
    cases h
    have mem := List.mem_of_find?_eq_some shared
    exact .inl ⟨c, by simpa using mem, by simpa using List.find?_some shared, rfl⟩
  right
  obtain unaddressed | ⟨_, -, h⟩ := Except.bind_eq_error.1 h
  · exact misnamed_of_ofTable_eq_error unaddressed
  obtain unwritten | ⟨_, -, h⟩ := Except.bind_eq_error.1 h
  · obtain ⟨c, mem, invalid, rfl⟩ := exists_of_mapM_writable_eq_error unwritten
    exact .column (.inl (Std.ExtTreeMap.mem_keys.1 mem)) invalid
  obtain unwritten | ⟨_, -, h⟩ := Except.bind_eq_error.1 h
  · obtain ⟨c, mem, invalid, rfl⟩ := exists_of_mapM_writable_eq_error unwritten
    exact .column (.inr (Std.ExtTreeMap.mem_keys.1 mem)) invalid
  · cases h

/-- Nothing is wrong if the table can be addressed and the columns may enter a statement. -/
theorem Sql.not_misnamed {written : Text → Prop}
    (addressed : ∃ target, Identifier.ofTable t = .ok target)
    (columns : ∀ c, written c → IsColumn c) (e : Error) : ¬Misnamed t written e := by
  obtain ⟨plain, filled⟩ := Identifier.exists_read_eq_ok.1 addressed
  rintro (mem | mem | ⟨mem, invalid⟩)
  · exact plain mem
  · exact filled [] mem rfl
  · exact invalid (columns _ mem)

/-! ## The change of one row -/

namespace Change

theorem key?_eq_some : key? rows t = some key ↔ rows[t]? = some key ∧ Record.IsKey key := by
  rw [key?, Option.filter_eq_some_iff]
  refine and_congr_right fun _ => ?_
  simp only [Bool.and_eq_true, Bool.not_eq_true', List.all_eq_true, Prod.forall,
    Std.ExtTreeMap.mem_toList_iff_getElem?_eq_some]
  constructor
  · rintro ⟨some, all⟩
    refine ⟨?_, fun c absent => by simpa using all c none absent⟩
    rintro rfl
    cases some
  · rintro ⟨ne, present⟩
    refine ⟨by simpa using ne, fun c v there => ?_⟩
    cases v with
    | none => exact absurd there (present c)
    | some v => rfl

theorem written_eq (v : Value) : written v = if v = some [] then none else v := by
  rcases v with _ | _ | ⟨c, v⟩ <;> rfl

theorem getElem?_columns (c : Text) : (columns key row)[c]? =
    (row[c]?.filter fun v => key[c]? ≠ some v).map written := by
  rw [columns, Std.ExtTreeMap.getElem?_map, Std.ExtTreeMap.getElem?_filter']

theorem mem_columns {c : Text} : c ∈ columns key row ↔ Record.Changes key row c := by
  rw [Std.ExtTreeMap.mem_iff_isSome_getElem?, getElem?_columns, Option.isSome_map,
    Option.isSome_iff_exists]
  simp only [Option.filter_eq_some_iff, decide_eq_true_eq]
  rfl

theorem columns_eq_empty : columns key row = ∅ ↔ ∀ c, ¬Record.Changes key row c := by
  rw [Std.ExtTreeMap.eq_empty_iff_forall_not_mem]
  simp only [mem_columns]

/-- The change writes a row: it sets the columns of `set`, which are those whose values differ from
the key's, finds the row by all columns of the key, and has the values of both. An empty text is
written as NULL. -/
structure Writes (change : Change) (t : TableName) (key row : Record) (set : List Text) : Prop where
  pairwise : set.Pairwise (compare · · = .lt)
  mem_set : ∀ c, c ∈ set ↔ Record.Changes key row c
  apart : ∀ c ∈ set, c ∉ key
  sql_eq : ∃ target, Identifier.ofTable t = .ok target ∧ change.sql =
    Sql.updateWith target set (set.map placeholder) key.keys (key.keys.map placeholder)
  mem_params : ∀ c, c ∈ change.params ↔ c ∈ set ∨ c ∈ key
  params_set : ∀ c ∈ set, ∀ v, row[c]? = some v →
    change.params[c]? = some (if v = some [] then none else v)
  params_key : ∀ c ∈ key, change.params[c]? = key[c]?

/-- If there is a change or none to be made, the key can find the row and the row leaves it
alone. -/
theorem ofRow?_eq_ok {change : Option Change} (h : ofRow? rows t row = .ok change) :
    ∃ key, rows[t]? = some key ∧ Record.IsKey key ∧
      (change = none ∧ (∀ c, ¬Record.Changes key row c) ∨
        ∃ made set, change = some made ∧ set ≠ [] ∧ Writes made t key row set) := by
  unfold ofRow? at h
  split at h
  · cases h
  next key found =>
    obtain ⟨there, isKey⟩ := key?_eq_some.1 found
    refine ⟨key, there, isKey, ?_⟩
    dsimp only at h
    split at h
    next same =>
      cases h
      exact .inl ⟨rfl, columns_eq_empty.1 (Std.ExtTreeMap.isEmpty_iff.1 same)⟩
    next differs =>
      obtain ⟨sql, built, h⟩ := Except.bind_eq_ok.1 h
      cases h
      obtain ⟨target, isTarget, -, -, apart, rfl⟩ := Sql.update_eq_ok built
      refine .inr ⟨_, (columns key row).keys, rfl, ?_, ?_⟩
      · simpa using differs
      constructor
      case pairwise => exact Std.ExtTreeMap.ordered_keys
      case mem_set => exact fun c => Std.ExtTreeMap.mem_keys.trans mem_columns
      case apart => exact apart
      case sql_eq => exact ⟨target, isTarget, rfl⟩
      case mem_params =>
        intro c
        rw [Std.ExtTreeMap.mem_insertMany_list, Std.ExtTreeMap.map_fst_toList_eq_keys]
        simp
      case params_set =>
        intro c mem v given
        refine Sql.getElem?_insertMany_of_disjoint apart c _ ?_
        obtain ⟨v', given', differs⟩ := mem_columns.1 (Std.ExtTreeMap.mem_keys.1 mem)
        obtain rfl := Option.some.inj (given'.symm.trans given)
        rw [getElem?_columns, given, Option.filter_some, if_pos (by simpa using differs),
          Option.map_some, written_eq]
      case params_key =>
        intro c mem
        obtain ⟨v, given⟩ :=
          Option.isSome_iff_exists.1 (Std.ExtTreeMap.mem_iff_isSome_getElem?.1 mem)
        rw [given]
        exact Sql.getElem?_insertMany_toList _ c v given

/-- A change is to be made exactly if the row differs from its key. -/
theorem isSome_iff_of_ofRow?_eq_ok {change : Option Change} (h : ofRow? rows t row = .ok change) :
    change.isSome ↔ ∃ key, rows[t]? = some key ∧ ∃ c, Record.Changes key row c := by
  obtain ⟨key, there, -, ⟨rfl, same⟩ | ⟨made, set, rfl, nonempty, writes⟩⟩ := ofRow?_eq_ok h
  · refine iff_of_false nofun ?_
    rintro ⟨key', there', c, changes⟩
    obtain rfl := Option.some.inj (there'.symm.trans there)
    exact same c changes
  · obtain ⟨c, mem⟩ := List.exists_mem_of_ne_nil set nonempty
    exact iff_of_true rfl ⟨key, there, c, (writes.mem_set c).1 mem⟩

/-! ### Rows that are refused -/

/-- What is wrong with the row of a table beside what is given to find it by. -/
inductive Refused (t : TableName) (row : Record) : Option Record → Error → Prop where
  /-- There is no key, it is empty, or one of its columns has no value. -/
  | unkeyed {given : Option Record} (none : ∀ key ∈ given, ¬Record.IsKey key) :
      Refused t row given (.write (.noKeyValues t))
  /-- The row changes a column of its key. -/
  | keyChanged {key : Record} {c : Text} (mem : c ∈ key) (changes : Record.Changes key row c) :
      Refused t row (some key) (.unsafeSql (.keyUpdated c))
  /-- Something changes, and a name may not enter the statement. -/
  | misnamed {key : Record} {e : Error} (changes : ∃ c, Record.Changes key row c)
      (misnamed : Sql.Misnamed t (fun c => Record.Changes key row c ∨ c ∈ key) e) :
      Refused t row (some key) e

/-- If no change can be made of a row, it is refused, and the failure says why. -/
theorem refused_of_ofRow?_eq_error {e : Error} (h : ofRow? rows t row = .error e) :
    Refused t row rows[t]? e := by
  unfold ofRow? at h
  split at h
  next none =>
    cases h
    refine .unkeyed fun key there isKey => ?_
    cases none.symm.trans (key?_eq_some.2 ⟨there, isKey⟩)
  next key found =>
    obtain ⟨there, isKey⟩ := key?_eq_some.1 found
    rw [there]
    dsimp only at h
    split at h
    · cases h
    next differs =>
      have some : columns key row ≠ ∅ := by simpa using differs
      obtain ⟨c, changes⟩ := not_forall_not.1 (mt columns_eq_empty.2 some)
      obtain unbuilt | ⟨_, -, h⟩ := Except.bind_eq_error.1 h
      · obtain ⟨c, mem, shared, rfl⟩ | wrong := Sql.update_eq_error some isKey.ne_empty unbuilt
        · exact .keyChanged shared (mem_columns.1 mem)
        · simp only [mem_columns] at wrong
          exact .misnamed ⟨c, changes⟩ wrong
      · cases h

theorem not_refused_of_ofRow?_eq_ok {change : Option Change} (h : ofRow? rows t row = .ok change)
    (e : Error) : ¬Refused t row rows[t]? e := by
  obtain ⟨key, there, isKey, made⟩ := ofRow?_eq_ok h
  rw [there]
  intro refused
  cases refused with
  | unkeyed none => exact none key rfl isKey
  | @keyChanged _ c mem changes =>
    obtain ⟨-, same⟩ | ⟨_, set, -, -, writes⟩ := made
    · exact same c changes
    · exact writes.apart c ((writes.mem_set c).2 changes) mem
  | misnamed changes wrong =>
    rw [ofRow?, key?_eq_some.2 ⟨there, isKey⟩] at h
    dsimp only at h
    split at h
    next same =>
      obtain ⟨c, changes⟩ := changes
      exact columns_eq_empty.1 (Std.ExtTreeMap.isEmpty_iff.1 same) c changes
    next differs =>
      obtain ⟨sql, built, -⟩ := Except.bind_eq_ok.1 h
      obtain ⟨target, addressed, changed, compared, -, -⟩ := Sql.update_eq_ok built
      refine Sql.not_misnamed ⟨target, addressed⟩ (fun c => ?_) e wrong
      rintro (changes | mem)
      · exact changed c (Std.ExtTreeMap.mem_keys.2 (mem_columns.2 changes))
      · exact compared c (Std.ExtTreeMap.mem_keys.2 mem)

/-- What the change of a row asks of its names: they may enter a statement. -/
structure Named (t : TableName) (key row : Record) : Prop where
  table : ∃ target, Identifier.ofTable t = .ok target
  changed : ∀ c, Record.Changes key row c → IsColumn c
  compared : ∀ c ∈ key, IsColumn c

theorem Named.not_misnamed (named : Named t key row) (e : Error) :
    ¬Sql.Misnamed t (fun c => Record.Changes key row c ∨ c ∈ key) e :=
  Sql.not_misnamed named.table (fun c mem => mem.elim (named.changed c) (named.compared c)) e

end Change

end JoinSheet
