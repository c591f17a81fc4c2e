import Mathlib.Algebra.GroupWithZero.Nat
import Mathlib.Data.List.ReduceOption
import JoinSheet.Proofs.Write.Atomic
import JoinSheet.Server.Scripted

/-!
# What an update writes

An update makes the changes of all rows that are given. It asks the database for nothing unless
every row has a key that it leaves alone.

## Main definitions

* `Updating.Unkeyed` — the tables whose row cannot be found, or would not be found any more.
* `Updating.Complete` — what has passed in an update that is done.

## Main statements

* `updateRows_changes` — an update writes exactly the changes, or asks for nothing.
-/

namespace JoinSheet

open Sql (IsColumn placeholder)

variable {σ : Type} {t : TableName} {key row : Record} {rows : TableRows} {values keys : Records}

/-! ## The changes of all rows -/

namespace Updating

/-- The row of a table cannot be found by a key, or would not be found by it any more: there is no
key, it is empty, it has a column without a value, or the row changes one of its columns. -/
def Unkeyed (values keys : Records) (t : TableName) : Prop :=
  ∃ row, values.row? t = some row ∧ ∀ key, keys.row? t = some key →
    key = ∅ ∨ (∃ c : Text, key[c]? = some none) ∨ ∃ c ∈ key, Record.Changes key row c

/-- The names of an update are valid: they name tables, and those that enter a statement may do
so. -/
structure Valid (values keys : Records) : Prop where
  isQualified : ∀ name, name ∈ values ∨ name ∈ keys → TableName.IsQualified name
  named : ∀ t row key, values.row? t = some row → keys.row? t = some key →
    (∃ c, Record.Changes key row c) → Change.Named t key row

/-- An update has no plan if a row has no key or changes it. -/
theorem exists_plan_eq_error (h : Unkeyed values keys t) : ∃ e, plan values keys = .error e := by
  refine Except.exists_eq_error.2 fun ⟨p, made⟩ => ?_
  obtain ⟨row, given, unkeyed⟩ := h
  have kept (e : Error) (refused : Change.Refused t row (keys.row? t) e) : False :=
    not_refused_of_plan_eq_ok made e (.change given refused)
  refine kept _ (.unkeyed fun key there isKey => ?_)
  obtain empty | ⟨c, absent⟩ | ⟨c, mem, changes⟩ := unkeyed key there
  · exact isKey.ne_empty empty
  · exact isKey.present c absent
  · rw [there] at kept
    exact kept _ (.keyChanged mem changes)

/-- An update has a plan if every row has a key that it does not change and all names are valid. -/
theorem exists_plan_eq_ok (keyed : ∀ t, ¬Unkeyed values keys t) (valid : Valid values keys) :
    ∃ p, plan values keys = .ok p := by
  by_contra unplanned
  obtain ⟨e, failed⟩ := Except.exists_eq_error.2 unplanned
  cases refused_of_plan_eq_error failed with
  | name given unqualified => exact unqualified (valid.isQualified _ given)
  | @change t row e given refused =>
    have kept := keyed t
    simp only [Unkeyed, not_exists, not_and, not_forall, not_or] at kept
    obtain ⟨key, there, ne_empty, present, apart⟩ := kept row given
    rw [there] at refused
    cases refused with
    | unkeyed none => exact none key rfl ⟨ne_empty, present⟩
    | keyChanged mem changes => exact apart _ mem changes
    | misnamed changes wrong =>
      exact (valid.named t row key given there changes).not_misnamed e wrong

/-- The statement of a change, whose answer is added to what has changed before. -/
def statement (changed : Nat) (c : Change) : Except Error (Statement Nat) :=
  .ok {
    request := .execute c.sql (.named c.params)
    read := fun (affected : Nat) => .ok (changed + affected)
    isStatement := Eq.refl true }

theorem plan_eq_ok {p : Plan Change Nat} (h : plan values keys = .ok p) :
    ∃ found given changes, keys.byTable = .ok found ∧ values.byTable = .ok given ∧
      given.toList.mapM (fun (t, row) => Change.ofRow? found t row) = .ok changes ∧
      p = ⟨changes.reduceOption, 0, statement⟩ := by
  obtain ⟨found, readKeys, h⟩ := Except.bind_eq_ok.1 h
  obtain ⟨given, readValues, h⟩ := Except.bind_eq_ok.1 h
  obtain ⟨changes, built, h⟩ := Except.bind_eq_ok.1 h
  cases h
  exact ⟨found, given, changes, readKeys, readValues, built, rfl⟩

end Updating

/-- The part of one table in an update: what is executed, and how many rows it affects. -/
structure Updated where
  table : TableName
  change : Change
  affected : Nat

/-- The statement of a change with its answer. -/
def Updated.exchange (u : Updated) : Exchange :=
  ⟨.execute u.change.sql (.named u.change.params), .ok (show Nat from u.affected)⟩

namespace Updating

/-- Entries with a change, by the changes that are left. -/
theorem forall₂_reduceOption {α : Type} {f : α → Except Error (Option Change)} {l : List α}
    {changes : List (Option Change)} (h : List.Forall₂ (fun a c => f a = .ok c) l changes) :
    List.Forall₂ (fun a c => f a = .ok (some c)) (l.filter fun a => (f a).toOption.join.isSome)
      changes.reduceOption := by
  induction h with
  | nil => exact .nil
  | @cons a change l changes head _ ih =>
    cases change with
    | none =>
      rw [List.reduceOption_cons_of_none, List.filter_cons_of_neg (by simp [head, Except.toOption])]
      exact ih
    | some c =>
      rw [List.reduceOption_cons_of_some, List.filter_cons_of_pos (by simp [head, Except.toOption])]
      exact .cons head ih

/-- The statements of a plan that is done, change by change. -/
theorem exists_updated_of_done {built : TableName × Record → Change → Prop}
    {entries : List (TableName × Record)} {changes : List Change} {log : List Exchange}
    {start final : Nat} (h : List.Forall₂ built entries changes)
    (done : Plan.Done statement start changes log final) :
    ∃ updates : List Updated, log = updates.map Updated.exchange ∧
      final = start + (updates.map Updated.affected).sum ∧
      updates.map Updated.table = entries.map Prod.fst ∧
      ∀ u ∈ updates, ∃ row, (u.table, row) ∈ entries ∧ built (u.table, row) u.change := by
  induction h generalizing start log with
  | nil =>
    cases done
    exact ⟨[], rfl, rfl, rfl, nofun⟩
  | @cons entry change entries changes head _ ih =>
    obtain ⟨s, affected, next, rest, made, read, later, rfl⟩ := Plan.done_cons.1 done
    cases made
    cases read
    obtain ⟨updates, rfl, rfl, tables, each⟩ := ih later
    refine ⟨⟨entry.1, change, affected⟩ :: updates, rfl, ?_, ?_, ?_⟩
    · rw [List.map_cons, List.sum_cons]
      exact Nat.add_assoc start affected _
    · rw [List.map_cons, List.map_cons, tables]
    · refine List.forall_mem_cons.2 ⟨⟨entry.2, List.mem_cons_self, head⟩, fun u mem => ?_⟩
      obtain ⟨row, there, made⟩ := each u mem
      exact ⟨row, List.mem_cons_of_mem _ there, made⟩

/-- An update is done: one transaction with one statement for each table whose row differs from its
key, in table order. -/
structure Complete (values keys : Records) (log : List Exchange) (changed : Nat)
    (updates : List Updated) : Prop where
  log_eq : log = ⟨.begin, .ok ()⟩ :: updates.map Updated.exchange ++ [⟨.commit, .ok ()⟩]
  changed_eq : changed = (updates.map Updated.affected).sum
  pairwise : (updates.map Updated.table).Pairwise (compare · · = .lt)
  mem_tables : ∀ t, t ∈ updates.map Updated.table ↔ ∃ row key, values.row? t = some row ∧
    keys.row? t = some key ∧ ∃ c, Record.Changes key row c
  writes : ∀ u ∈ updates, ∃ row key set, values.row? u.table = some row ∧
    keys.row? u.table = some key ∧ u.change.Writes u.table key row set

/-- A plan that is performed in a transaction in which nothing fails is done. -/
theorem complete_of_done {p : Plan Change Nat} (made : plan values keys = .ok p)
    {statements : List Exchange} {final : Nat}
    (done : Plan.Done p.statement p.start p.items statements final) :
    ∃ updates, Complete values keys (⟨.begin, .ok ()⟩ :: statements ++ [⟨.commit, .ok ()⟩]) final
      updates := by
  obtain ⟨found, given, changes, readKeys, readValues, built, rfl⟩ := plan_eq_ok made
  obtain ⟨updates, rfl, rfl, tables, each⟩ := exists_updated_of_done
    (forall₂_reduceOption (Except.mapM_eq_ok.1 built)) done
  have keys_iff := Records.getElem?_of_byTable readKeys
  have given_iff {t row} : (t, row) ∈ given.toList ↔ values.row? t = some row := by
    rw [Std.ExtTreeMap.mem_toList_iff_getElem?_eq_some, Records.getElem?_of_byTable readValues]
  refine ⟨updates, rfl, Nat.zero_add _, ?_, ?_, ?_⟩
  · rw [tables, List.pairwise_map]
    exact Std.ExtTreeMap.ordered_keys_toList.filter _
  · intro t
    rw [tables, List.mem_map]
    constructor
    · rintro ⟨⟨t, row⟩, mem, rfl⟩
      obtain ⟨mem, changed⟩ := List.mem_filter.1 mem
      obtain ⟨change, made⟩ := Except.exists_of_mapM_eq_ok built mem
      rw [made] at changed
      obtain ⟨key, there, changes⟩ := (Change.isSome_iff_of_ofRow?_eq_ok made).1 changed
      exact ⟨row, key, given_iff.1 mem, keys_iff t ▸ there, changes⟩
    · rintro ⟨row, key, rowed, there, changes⟩
      have mem := given_iff.2 rowed
      obtain ⟨change, made⟩ := Except.exists_of_mapM_eq_ok built mem
      refine ⟨(t, row), List.mem_filter.2 ⟨mem, ?_⟩, rfl⟩
      rw [made]
      exact (Change.isSome_iff_of_ofRow?_eq_ok made).2 ⟨key, (keys_iff t).trans there, changes⟩
  · intro u mem
    obtain ⟨row, mem, made⟩ := each u mem
    obtain ⟨key, there, -, ⟨⟨⟩, -⟩ | ⟨_, set, ⟨⟩, -, writes⟩⟩ := Change.ofRow?_eq_ok made
    exact ⟨row, key, set, given_iff.1 (List.mem_filter.1 mem).1, keys_iff _ ▸ there, writes⟩

/-- The plan of an update stops only because the database reports a failure. -/
theorem exists_error_of_stops {p : Plan Change Nat} (made : plan values keys = .ok p)
    {statements : List Exchange} {e : Error}
    (stops : Plan.Stops p.statement p.start p.items statements e) :
    ∃ x ∈ statements, x.answer = .error e := by
  obtain ⟨_, _, _, -, -, -, rfl⟩ := plan_eq_ok made
  obtain ⟨_, _, _, first, mid, last, -, -, fails, rfl⟩ := stops
  cases fails with
  | unbuilt unbuilt => cases unbuilt
  | @refused _ s _ => exact ⟨⟨s.request, .error e⟩, by simp, rfl⟩
  | rejected built unread =>
    cases built
    cases unread

end Updating

/-- An update writes exactly the changes. Nothing is asked of the database, and the update fails, if
a row has no key, a key without columns, a key without all of its values, or changes a column of its
key. Else, if the names are valid and no request fails, one statement is sent for each table whose
row differs from its key, in table order and in one transaction. It sets the columns that differ and
finds the row by all columns of the key. The result is how many rows the statements have
affected. -/
theorem updateRows_changes (server : Server σ) (s : σ) (values keys : Records) :
    ((∃ t, Updating.Unkeyed values keys t) →
      (∃ e, (updateRows values keys).result server s = .error e) ∧
        (updateRows values keys).transcript server s = []) ∧
    ((∀ t, ¬Updating.Unkeyed values keys t) → Updating.Valid values keys →
      (∀ x ∈ (updateRows values keys).transcript server s, x.answer.isOk) →
      ∃ changed updates, (updateRows values keys).result server s = .ok changed ∧
        Updating.Complete values keys ((updateRows values keys).transcript server s) changed
          updates) := by
  have ended := Action.ends_transcript server (updateRows values keys) s
  constructor
  · rintro ⟨t, unkeyed⟩
    obtain ⟨e, unplanned⟩ := Updating.exists_plan_eq_error unkeyed
    rw [updateRows_eq, unplanned]
    exact ⟨⟨e, rfl⟩, rfl⟩
  · intro keyed valid answered
    obtain ⟨p, made⟩ := Updating.exists_plan_eq_ok keyed valid
    have performs : updateRows values keys = p.perform := by
      rw [updateRows_eq, made]
      exact bind_pure p.perform
    nth_rewrite 1 [performs] at ended
    obtain ⟨e, log, -⟩ | ⟨statements, final, answer, done, log, result⟩ |
      ⟨statements, e, answer, stops, log, -⟩ := Plan.ends_perform.1 ended
    · rw [log] at answered
      cases answered _ List.mem_cons_self
    · rw [log] at answered ⊢
      cases answer with
      | error e => cases answered ⟨.commit, .error e⟩ (by simp)
      | ok _ =>
        obtain ⟨updates, complete⟩ := Updating.complete_of_done made done
        exact ⟨final, updates, result, complete⟩
    · obtain ⟨x, mem, failed⟩ := Updating.exists_error_of_stops made stops
      have ok := answered x (by simp [log, mem])
      rw [failed] at ok
      cases ok

/-- A name that becomes empty beside a key that is repeated, and a row that repeats all of a
composite key and no more. With another number the row of the first table is refused. -/
theorem updateRows_changes_customer :
    let server := Scripted.server ⟨[], ∅, [], ∅, none⟩
    let script := Script.restart [.affected 1]
    let customer : Record := (∅ : Record).insert "id" (some "1")
    let line : Record := (∅ : Record).insert "item" (some "pen") |>.insert "order" (some "7")
    let keys : Records := (∅ : Records)
      |>.insert "shop.customers" customer
      |>.insert "shop.lines" line
    let values (id : Text) : Records := (∅ : Records)
      |>.insert "shop.customers" ((∅ : Record).insert "id" (some id) |>.insert "name" (some []))
      |>.insert "shop.lines" line
    (∃ e, (updateRows (values "2") keys).result server script = .error e) ∧
      (updateRows (values "2") keys).transcript server script = [] ∧
      ∃ changed updates, (updateRows (values "1") keys).result server script = .ok changed ∧
        Updating.Complete (values "1") keys
          ((updateRows (values "1") keys).transcript server script) changed updates := by
  intro server script customer line keys values
  have found : keys.row? ⟨"shop", "customers"⟩ = some customer := by decide +kernel
  have found' : keys.row? ⟨"shop", "lines"⟩ = some line := by decide +kernel
  have given (t : TableName) (row : Record) (h : (values "1").row? t = some row) :
      t = ⟨"shop", "customers"⟩ ∧ row = customer.insert "name" (some []) ∨
        t = ⟨"shop", "lines"⟩ ∧ row = line := by
    obtain ⟨name, there, read⟩ := Records.row?_eq_some.1 h
    simp only [values, Std.ExtTreeMap.getElem?_insert, Std.compare_eq_iff_eq] at there
    split_ifs at there with lines customers
    · subst lines
      cases there
      cases read
      exact .inr ⟨rfl, rfl⟩
    · subst customers
      cases there
      cases read
      exact .inl ⟨rfl, rfl⟩
    · cases there
  have same (c : Text) : ¬Record.Changes line line c := fun ⟨_, there, differs⟩ => differs there
  have name (c : Text) (h : Record.Changes customer (customer.insert "name" (some [])) c) :
      c = "name" := by
    obtain ⟨v, there, differs⟩ := h
    rw [Std.ExtTreeMap.getElem?_insert] at there
    split_ifs at there with eq
    · exact (Std.compare_eq_iff_eq.1 eq).symm
    · exact absurd there differs
  have refused : Updating.Unkeyed (values "2") keys ⟨"shop", "customers"⟩ := by
    refine ⟨(∅ : Record).insert "id" (some "2") |>.insert "name" (some []), by decide +kernel,
      fun key there => ?_⟩
    cases found.symm.trans there
    exact .inr (.inr ⟨"id", by decide +kernel, some "2", by decide +kernel, by decide +kernel⟩)
  have keyed : ∀ t, ¬Updating.Unkeyed (values "1") keys t := by
    rintro t ⟨row, there, unkeyed⟩
    obtain ⟨rfl, rfl⟩ | ⟨rfl, rfl⟩ := given t row there
    · obtain empty | ⟨c, absent⟩ | ⟨c, mem, changes⟩ := unkeyed customer found
      · exact absurd empty (by decide +kernel)
      · simp [customer, Std.ExtTreeMap.getElem?_insert] at absent
      · cases name c changes
        exact absurd mem (by decide +kernel)
    · obtain empty | ⟨c, absent⟩ | ⟨c, mem, changes⟩ := unkeyed line found'
      · exact absurd empty (by decide +kernel)
      · simp [line, Std.ExtTreeMap.getElem?_insert, ite_eq_iff] at absent
      · exact same c changes
  have valid : Updating.Valid (values "1") keys := by
    constructor
    · intro name mem
      obtain rfl | rfl : "shop.lines".toList = name ∨ "shop.customers".toList = name := by
        simpa [values, keys] using mem
      · exact ⟨"shop", "lines", by decide, by decide, by decide, by decide⟩
      · exact ⟨"shop", "customers", by decide, by decide, by decide, by decide⟩
    · intro t row key there there' changes
      obtain ⟨c, changes⟩ := changes
      obtain ⟨rfl, rfl⟩ | ⟨rfl, rfl⟩ := given t row there
      · cases found.symm.trans there'
        refine ⟨⟨⟨["shop", "customers"], by decide, by simp [IsSegment]⟩, by decide +kernel⟩,
          fun c changes => ?_, fun c mem => ?_⟩
        · cases name c changes
          exact ⟨by decide, List.all_eq_true.1 (by decide)⟩
        · obtain rfl : "id".toList = c := by simpa [customer] using mem
          exact ⟨by decide, List.all_eq_true.1 (by decide)⟩
      · cases found'.symm.trans there'
        exact absurd changes (same c)
  obtain ⟨error, silent⟩ := (updateRows_changes server script (values "2") keys).1 ⟨_, refused⟩
  exact ⟨error, silent, (updateRows_changes server script (values "1") keys).2 keyed valid
    (by decide +kernel)⟩

end JoinSheet
