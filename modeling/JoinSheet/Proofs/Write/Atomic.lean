import JoinSheet.Proofs.Database.Plan
import JoinSheet.Proofs.Write.Change
import JoinSheet.Proofs.Write.Order
import JoinSheet.Proofs.Write.Rows

/-!
# Writes come to all or to nothing

An insertion into several tables and an update of several tables are plans that are performed in one
transaction. What is wrong with their arguments is found while the plan is made, before anything is
asked of the database. The statements of an update are built then as well; those of an insertion
depend on what the database returns for the rows before.

## Main definitions

* `TableName.IsQualified` — the texts that name a table.
* `Insertion.plan`, `Updating.plan` — what is to be done.
* `Insertion.Refused`, `Updating.Refused` — the failures without a plan.

## Main statements

* `insertRows_eq`, `updateRows_eq` — writes carry out their plans.
* `Insertion.refused_of_plan_eq_error`, `Insertion.not_refused_of_plan_eq_ok`, and the same for
  `Updating` — there is no plan exactly for what is refused.
* `writes_allOrNothing` — what passes between a write and any database.
-/

open Relation

namespace JoinSheet

open Dependency

variable {σ : Type} {keys : List ForeignKey} {values references : Records} {t : TableName}

/-! ## Names of tables -/

/-- A schema, a point and a table. The schema ends at the first point. -/
def TableName.IsQualified (name : Text) : Prop :=
  ∃ schema table : Text, name = schema ++ '.' :: table ∧ '.' ∉ schema ∧ schema ≠ [] ∧ table ≠ []

theorem TableName.isQualified_of_read {name : Text} (h : read name = .ok t) : IsQualified name := by
  unfold read at h
  split at h
  next schema table cut =>
    split at h
    next named => exact ⟨schema, table, Text.append_of_cut? cut, Text.notMem_of_cut? cut, named⟩
    · cases h
  · cases h

/-- A text that names no table is reported as such. -/
theorem TableName.read_of_not_isQualified {name : Text} (h : ¬IsQualified name) :
    read name = .error (.resolve (.unqualifiedTable name)) := by
  unfold read
  split
  next schema table cut =>
    rw [if_neg]
    intro named
    exact h ⟨schema, table, Text.append_of_cut? cut, Text.notMem_of_cut? cut, named⟩
  · rfl

theorem TableName.read_eq_error {name : Text} {e : Error} (h : read name = .error e) :
    ¬IsQualified name ∧ e = .resolve (.unqualifiedTable name) := by
  have unqualified : ¬IsQualified name := by
    rintro ⟨schema, table, rfl, absent, named⟩
    rw [read, Text.cut?_append absent] at h
    simp only [if_pos named] at h
    cases h
  rw [read_of_not_isQualified unqualified] at h
  exact ⟨unqualified, by cases h; rfl⟩

/-- Rows by table are there exactly if all names are qualified. -/
theorem Records.byTable_eq_error {records : Records} {e : Error} (h : records.byTable = .error e) :
    ∃ name ∈ records, ¬TableName.IsQualified name ∧ e = .resolve (.unqualifiedTable name) := by
  obtain ⟨⟨name, row⟩, mem, rows, failed⟩ := Except.exists_of_foldlM_eq_error h
  have given : name ∈ records := by
    rw [Std.ExtTreeMap.mem_toList_iff_getElem?_eq_some] at mem
    exact Std.ExtTreeMap.mem_iff_isSome_getElem?.2 (by simp [mem])
  cases read : TableName.read name with
  | error e' =>
    simp only [read] at failed
    cases failed
    exact ⟨name, given, TableName.read_eq_error read⟩
  | ok t =>
    simp only [read] at failed
    cases failed

theorem Records.isQualified_of_byTable {records : Records} {rows : TableRows}
    (h : records.byTable = .ok rows) {name : Text} (given : name ∈ records) :
    TableName.IsQualified name := by
  obtain ⟨row, found⟩ := Option.isSome_iff_exists.1 (Std.ExtTreeMap.mem_iff_isSome_getElem?.1 given)
  have mem := Std.ExtTreeMap.mem_toList_iff_getElem?_eq_some.2 found
  obtain ⟨_, _, step⟩ := Except.exists_of_foldlM_eq_ok h mem
  obtain ⟨t, read, -⟩ := Except.bind_eq_ok.1 step
  exact TableName.isQualified_of_read read

/-! ## Insertions -/

/-- The tables that an insertion writes to are those that have a value. -/
theorem Records.mem_filter_isAllNull {records : Records} {rows : TableRows}
    (h : records.byTable = .ok rows) {t : TableName} :
    t ∈ (rows.filter fun _ row => !row.isAllNull) ↔ records.HasValue t := by
  simp only [Std.ExtTreeMap.mem_iff_isSome_getElem?, Option.isSome_iff_exists,
    getElem?_filter_isAllNull, Records.getElem?_of_byTable h, Records.HasValue]

namespace Insertion

/-- A row is inserted and nothing of it is read back. -/
def silent (row : Record) (sql : Text) : Statement Record where
  request := .execute sql (.named row)
  read _ := .ok ∅
  isStatement := rfl

/-- A row is inserted and columns of it are read back. No answer is a failure. -/
def answered (t : TableName) (row : Record) (returning : List Text) (sql : Text) :
    Statement Record where
  request := .query sql (.named row)
  read
    | [] => .error (.write (.noRowReturned t))
    | first :: _ => .ok ((returning.zip first).foldl (fun back (name, v) => back.insert name v) ∅)
  isStatement := rfl

/-- The statement that inserts a row. -/
def statement (t : TableName) (row : Record) (returning : List Text) :
    Except Error (Statement Record) :=
  (Sql.insert t row returning).map
    (if returning = [] then silent row else answered t row returning)

/-- Each table that has a value gets a row, in dependency order. -/
def plan (keys : List ForeignKey) (values references : Records) :
    Except Error (Plan TableName TableRows) := do
  let given ← values.byTable
  let rows := given.filter fun _ row => !row.isAllNull
  if rows.isEmpty then throw (.write .allEmpty)
  let references ← references.byTable
  let order ← dependencyOrder rows.keys keys
  return {
    items := order
    start := ∅
    statement := fun returned t =>
      (statement t (row keys rows returned references t) (returning keys rows t)).map
        (Statement.map (returned.insert t)) }

theorem insertRow_eq (t : TableName) (row : Record) (returning : List Text) :
    insertRow t row returning =
      Action.ofExcept (statement t row returning) >>= Statement.perform := by
  unfold insertRow statement
  cases Sql.insert t row returning with
  | error e => rfl
  | ok sql =>
    by_cases none : returning = []
    · subst none
      rfl
    · rw [if_neg none]
      show (if returning = [] then _ else _) = (answered t row returning sql).perform
      rw [if_neg none]
      refine bind_congr fun reply => ?_
      cases reply with
      | nil => rfl
      | cons first rest => rfl

theorem step_eq (keys : List ForeignKey) (rows references returned : TableRows) (t : TableName) :
    step keys rows references returned t = Plan.step (fun returned t =>
      (statement t (row keys rows returned references t) (returning keys rows t)).map
        (Statement.map (returned.insert t))) returned t := by
  rw [step, insertRow_eq, Plan.step]
  cases statement t (row keys rows returned references t) (returning keys rows t) with
  | error e => rfl
  | ok s => exact (Statement.perform_map _ s).symm

/-- What is wrong with the arguments of an insertion. -/
inductive Refused (keys : List ForeignKey) (values references : Records) : Error → Prop where
  /-- A name does not name a table. -/
  | name {name : Text} (given : name ∈ values ∨ name ∈ references)
      (unqualified : ¬TableName.IsQualified name) :
      Refused keys values references (.resolve (.unqualifiedTable name))
  /-- There is nothing to insert. -/
  | empty (none : ∀ t, ¬values.HasValue t) : Refused keys values references (.write .allEmpty)
  /-- Keys form a cycle through tables that have a value. -/
  | cycle {t : TableName} {stuck : List TableName}
      (around : TransGen (fun a b => ∃ key ∈ keys, key.target = a ∧ key.source = b ∧
        values.HasValue a ∧ values.HasValue b) t t) :
      Refused keys values references (.graph (.cycle stuck))

theorem references_of_byTable {given : TableRows} (h : values.byTable = .ok given) :
    References (given.filter fun _ row => !row.isAllNull).keys keys = fun a b =>
      ∃ key ∈ keys, key.target = a ∧ key.source = b ∧ values.HasValue a ∧ values.HasValue b := by
  funext a b
  simp only [References, Std.ExtTreeMap.mem_keys, Records.mem_filter_isAllNull h]

theorem isEmpty_filter_isAllNull {given : TableRows} (h : values.byTable = .ok given) :
    (given.filter fun _ row => !row.isAllNull).isEmpty ↔ ∀ t, ¬values.HasValue t := by
  rw [← Std.ExtTreeMap.isEmpty_keys, List.isEmpty_iff, List.eq_nil_iff_forall_not_mem]
  simp only [Std.ExtTreeMap.mem_keys, Records.mem_filter_isAllNull h]

/-- There is no plan for what is refused, and the failure says why. -/
theorem refused_of_plan_eq_error {e : Error} (h : plan keys values references = .error e) :
    Refused keys values references e := by
  obtain unread | ⟨given, read, h⟩ := Except.bind_eq_error.1 h
  · obtain ⟨name, mem, unqualified, rfl⟩ := Records.byTable_eq_error unread
    exact .name (.inl mem) unqualified
  -- The checks fail in the order in which they are made.
  dsimp only at h
  split at h
  next none =>
    cases h
    exact .empty ((isEmpty_filter_isAllNull read).1 none)
  obtain unread | ⟨found, -, h⟩ := Except.bind_eq_error.1 h
  · obtain ⟨name, mem, unqualified, rfl⟩ := Records.byTable_eq_error unread
    exact .name (.inr mem) unqualified
  obtain unsorted | ⟨order, -, h⟩ := Except.bind_eq_error.1 h
  · obtain ⟨stuck, rfl, -⟩ := dependencyOrder_eq_error Std.ExtTreeMap.nodup_keys unsorted
    have cyclic := mt (isOk_dependencyOrder Std.ExtTreeMap.nodup_keys).2
      (by rw [unsorted]; exact Bool.false_ne_true)
    rw [references_of_byTable read] at cyclic
    push Not at cyclic
    obtain ⟨t, around⟩ := cyclic
    exact .cycle around
  · cases h

theorem not_refused_of_plan_eq_ok {p : Plan TableName TableRows}
    (h : plan keys values references = .ok p) (e : Error) : ¬Refused keys values references e := by
  obtain ⟨given, read, h⟩ := Except.bind_eq_ok.1 h
  dsimp only at h
  split at h
  · cases h
  next some =>
    obtain ⟨found, readReferences, h⟩ := Except.bind_eq_ok.1 h
    obtain ⟨order, sorted, -⟩ := Except.bind_eq_ok.1 h
    intro refused
    cases refused with
    | name mem unqualified =>
      obtain mem | mem := mem
      · exact unqualified (Records.isQualified_of_byTable read mem)
      · exact unqualified (Records.isQualified_of_byTable readReferences mem)
    | empty none => exact some ((isEmpty_filter_isAllNull read).2 none)
    | cycle around =>
      have ordered :
          (dependencyOrder (given.filter fun _ row => !row.isAllNull).keys keys).isOk := by
        rw [sorted]
        rfl
      have acyclic := (isOk_dependencyOrder Std.ExtTreeMap.nodup_keys).1 ordered
      rw [references_of_byTable read] at acyclic
      exact acyclic _ around

end Insertion

/-- An insertion into several tables carries out its plan. -/
theorem insertRows_eq (keys : List ForeignKey) (values references : Records) :
    insertRows keys values references =
      Plan.carryOut (Insertion.plan keys values references)
        fun p returned => ⟨p.items, returned⟩ := by
  unfold insertRows Insertion.plan
  rw [Plan.carryOut_bind]
  refine bind_congr fun given => ?_
  dsimp only
  split
  · rfl
  · rw [Plan.carryOut_bind]
    refine bind_congr fun references => ?_
    rw [Plan.carryOut_bind]
    refine bind_congr fun order => ?_
    have steps : Insertion.step keys (given.filter fun _ row => !row.isAllNull) references = _ :=
      funext fun returned => funext fun t => Insertion.step_eq keys _ references returned t
    rw [steps]
    rfl

/-! ## Updates -/

namespace Updating

variable {keys : Records}

/-- Each row that differs from its key is changed. -/
def plan (values keys : Records) : Except Error (Plan Change Nat) := do
  let keys ← keys.byTable
  let rows ← values.byTable
  let changes ← rows.toList.mapM fun (t, row) => Change.ofRow? keys t row
  return {
    items := changes.reduceOption
    start := 0
    statement := fun changed c => .ok {
      request := .execute c.sql (.named c.params)
      read := fun (affected : Nat) => .ok (changed + affected)
      isStatement := rfl } }

/-- What is wrong with the arguments of an update. -/
inductive Refused (values keys : Records) : Error → Prop where
  /-- A name does not name a table. -/
  | name {name : Text} (given : name ∈ values ∨ name ∈ keys)
      (unqualified : ¬TableName.IsQualified name) :
      Refused values keys (.resolve (.unqualifiedTable name))
  /-- The row of a table is refused beside the key that is given for it. -/
  | change {t : TableName} {row : Record} {e : Error} (given : values.row? t = some row)
      (refused : Change.Refused t row (keys.row? t) e) : Refused values keys e

theorem refused_of_plan_eq_error {e : Error} (h : plan values keys = .error e) :
    Refused values keys e := by
  obtain unread | ⟨found, read, h⟩ := Except.bind_eq_error.1 h
  · obtain ⟨name, mem, unqualified, rfl⟩ := Records.byTable_eq_error unread
    exact .name (.inr mem) unqualified
  obtain unread | ⟨given, readValues, h⟩ := Except.bind_eq_error.1 h
  · obtain ⟨name, mem, unqualified, rfl⟩ := Records.byTable_eq_error unread
    exact .name (.inl mem) unqualified
  obtain unbuilt | ⟨changes, -, h⟩ := Except.bind_eq_error.1 h
  · obtain ⟨⟨t, row⟩, mem, unbuilt⟩ := Except.exists_of_mapM_eq_error unbuilt
    rw [Std.ExtTreeMap.mem_toList_iff_getElem?_eq_some,
      Records.getElem?_of_byTable readValues] at mem
    have refused := Change.refused_of_ofRow?_eq_error unbuilt
    rw [Records.getElem?_of_byTable read] at refused
    exact .change mem refused
  · cases h

theorem not_refused_of_plan_eq_ok {p : Plan Change Nat} (h : plan values keys = .ok p) (e : Error) :
    ¬Refused values keys e := by
  obtain ⟨found, read, h⟩ := Except.bind_eq_ok.1 h
  obtain ⟨given, readValues, h⟩ := Except.bind_eq_ok.1 h
  obtain ⟨changes, built, -⟩ := Except.bind_eq_ok.1 h
  intro refused
  cases refused with
  | name mem unqualified =>
    obtain mem | mem := mem
    · exact unqualified (Records.isQualified_of_byTable readValues mem)
    · exact unqualified (Records.isQualified_of_byTable read mem)
  | @change t row _ mem refused =>
    rw [← Records.getElem?_of_byTable readValues,
      ← Std.ExtTreeMap.mem_toList_iff_getElem?_eq_some] at mem
    rw [← Records.getElem?_of_byTable read] at refused
    obtain ⟨change, ok⟩ := Except.exists_of_mapM_eq_ok built mem
    exact Change.not_refused_of_ofRow?_eq_ok ok e refused

end Updating

theorem updateRows_eq (values keys : Records) :
    updateRows values keys =
      Plan.carryOut (Updating.plan values keys) fun _ changed => changed := by
  unfold updateRows Updating.plan
  rw [Plan.carryOut_bind]
  refine bind_congr fun keys => ?_
  rw [Plan.carryOut_bind]
  refine bind_congr fun rows => ?_
  rw [Plan.carryOut_bind]
  exact bind_congr fun changes => (bind_pure _).symm

/-- An insertion into several tables, and an update of several tables, comes to all or to nothing
with every database, whatever it answers. -/
theorem writes_allOrNothing (server : Server σ) (s : σ) :
    (∀ (keys : List ForeignKey) (values references : Records),
      AllOrNothing (Insertion.Refused keys values references)
        (Insertion.plan keys values references)
        ((insertRows keys values references).transcript server s)
        ((insertRows keys values references).result server s)) ∧
    ∀ values keys : Records,
      AllOrNothing (Updating.Refused values keys) (Updating.plan values keys)
        ((updateRows values keys).transcript server s)
        ((updateRows values keys).result server s) := by
  constructor
  · intro keys values references
    have ended := Action.ends_transcript server (insertRows keys values references) s
    nth_rewrite 1 [insertRows_eq] at ended
    exact Plan.allOrNothing (fun _ => Insertion.refused_of_plan_eq_error)
      (fun _ => Insertion.not_refused_of_plan_eq_ok) ended
  · intro values keys
    have ended := Action.ends_transcript server (updateRows values keys) s
    nth_rewrite 1 [updateRows_eq] at ended
    exact Plan.allOrNothing (fun _ => Updating.refused_of_plan_eq_error)
      (fun _ => Updating.not_refused_of_plan_eq_ok) ended

end JoinSheet
