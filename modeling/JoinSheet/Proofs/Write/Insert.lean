import JoinSheet.Proofs.Database.Transcript
import JoinSheet.Proofs.Sql.Binding
import JoinSheet.Proofs.Write.Order
import JoinSheet.Proofs.Write.Rows
import JoinSheet.Server.Scripted

/-!
# What an insertion into several tables does

An insertion that succeeds has inserted one row into each table that has a value, in dependency
order and in one transaction. A key's columns hold what is known of the row that the key references,
and this is final when it is used: the order has the referenced row inserted before.

## Main definitions

* `Insertion.knownRow`, `Insertion.bound` — what a column of an inserted row is to hold.
* `Insertion.Answered` — the exchange that inserts one row.
* `Insertion.Inserted` — the exchange that inserts the row of a table among those of other tables.
-/

namespace JoinSheet

open Dependency

variable {σ : Type} {keys : List ForeignKey} {values : Records} {rows references : TableRows}
  {written : List TableName} {t : TableName} {log : List Exchange}

/-! ## One row -/

namespace Insertion

/-- The exchange `e` inserts `row` into the table `t`, and the columns `returning` are read back as
`back` from the first row of its answer. The statement has a placeholder for each column of the row,
named after the column. -/
def Answered (t : TableName) (row : Record) (returning : List Text) (e : Exchange)
    (back : Record) : Prop :=
  ∃ sql target, Sql.insert t row returning = .ok sql ∧ Identifier.ofTable t = .ok target ∧
    sql = Sql.insertWith target row.keys (row.keys.map Sql.placeholder) returning ∧
    (returning = [] ∧ back = ∅ ∧ (∃ n : Nat, e = ⟨.execute sql (.named row), .ok n⟩) ∨
      returning ≠ [] ∧ ∃ (first : Row) (later : List Row),
        e = ⟨.query sql (.named row), .ok (first :: later)⟩ ∧
        ∀ c, back[c]? = (returning.zip first).lookup c)

theorem nodup_map_fst_zip {returning : List Text} (distinct : returning.Nodup) (row : Row) :
    ((returning.zip row).map Prod.fst).Nodup := by
  induction returning generalizing row with
  | nil => simp
  | cons name returning ih =>
    obtain ⟨fresh, distinct⟩ := List.nodup_cons.1 distinct
    cases row with
    | nil => simp
    | cons v row =>
      rw [List.zip_cons_cons, List.map_cons, List.nodup_cons]
      refine ⟨fun mem => fresh ?_, ih distinct row⟩
      obtain ⟨⟨_, _⟩, paired, rfl⟩ := List.mem_map.1 mem
      exact (List.of_mem_zip paired).1

theorem answered_of_follows {row back : Record} {returning : List Text}
    (distinct : returning.Nodup) (h : (insertRow t row returning).Follows log back) :
    ∃ e, log = [e] ∧ Answered t row returning e back := by
  obtain ⟨sql, built, run⟩ := Action.follows_ofExcept_bind.1 h
  obtain ⟨target, addressed, -, -, text⟩ := Sql.insert_eq_ok built
  split at run
  next none =>
    obtain ⟨n, _, ended, rfl⟩ := Action.follows_ask_bind.1 run
    obtain ⟨rfl, rfl⟩ := Action.follows_pure.1 ended
    exact ⟨_, rfl, sql, target, built, addressed, text, .inl ⟨none, rfl, n, rfl⟩⟩
  next some =>
    obtain ⟨found, _, ended, rfl⟩ := Action.follows_ask_bind.1 run
    cases found with
    | nil => exact absurd ended Action.not_follows_throw
    | cons first rest =>
      obtain ⟨rfl, rfl⟩ := Action.follows_pure.1 ended
      refine ⟨_, rfl, sql, target, built, addressed, text, .inr ⟨some, first, rest, rfl, ?_⟩⟩
      intro c
      rw [getElem?_foldl_insert (nodup_map_fst_zip distinct first)]
      simp

/-! ## The columns that are read back -/

theorem mem_foldl_insert (l : List Text) (start : Std.ExtTreeMap Text Unit) (c : Text) :
    c ∈ l.foldl (fun names name => names.insert name ()) start ↔ c ∈ l ∨ c ∈ start := by
  induction l generalizing start with
  | nil => simp
  | cons name l ih =>
    rw [List.foldl_cons, ih, Std.ExtTreeMap.mem_insert, Std.compare_eq_iff_eq, List.mem_cons]
    constructor
    · rintro (mem | rfl | mem)
      · exact .inl (.inr mem)
      · exact .inl (.inl rfl)
      · exact .inr mem
    · rintro ((rfl | mem) | mem)
      · exact .inr (.inl rfl)
      · exact .inl mem
      · exact .inr (.inr mem)

theorem mem_returning {c : Text} : c ∈ returning keys rows t ↔
    ∃ key ∈ keys, key.target = t ∧ key.source ∈ rows ∧ c ∈ key.targetColumns := by
  simp [returning, mem_foldl_insert, and_assoc]

theorem pairwise_returning : (returning keys rows t).Pairwise fun a b => compare a b = .lt :=
  Std.ExtTreeMap.ordered_keys

/-! ## One table after the other -/

/-- The row of a table depends on what is known of the rows that its keys reference. -/
theorem row_congr {returned final : TableRows}
    (same : ∀ key ∈ keys, key.source = t → returned[key.target]? = final[key.target]?) :
    row keys rows returned references t = row keys rows final references t := by
  unfold row
  apply List.foldl_ext
  intro row key mem
  obtain ⟨hk, hs⟩ := List.mem_filter.1 mem
  rw [known, known, same key hk (by simpa using hs)]

/-- A written table that a key of the next table references has been taken before. -/
theorem target_mem_taken {taken tables : List TableName}
    (settled : Settled (ofKeys written keys) (taken ++ t :: tables))
    (all : ∀ u, u ∈ written ↔ u ∈ taken ++ t :: tables) {key : ForeignKey} (hk : key ∈ keys)
    (hs : key.source = t) (ht : key.target ∈ written) : key.target ∈ taken := by
  have demand : References written keys key.target t :=
    ⟨key, hk, rfl, hs, ht, (all t).2 (by simp)⟩
  rw [← precedes_ofKeys] at demand
  exact settled taken t tables rfl _ demand rfl

/-- When a row is inserted, what is known of the rows that it references is final. -/
theorem follows_foldlM_step (taken : List TableName) {tables : List TableName}
    {start final : TableRows} (settled : Settled (ofKeys written keys) (taken ++ tables))
    (nodup : (taken ++ tables).Nodup) (all : ∀ u, u ∈ written ↔ u ∈ taken ++ tables)
    (started : ∀ u, u ∈ start ↔ u ∈ taken)
    (h : (tables.foldlM (step keys rows references) start).Follows log final) :
    (∀ u ∉ tables, final[u]? = start[u]?) ∧ (∀ u, u ∈ final ↔ u ∈ taken ++ tables) ∧
      List.Forall₂ (fun t e => ∃ back, final[t]? = some back ∧
        Answered t (row keys rows final references t) (returning keys rows t) e back)
        tables log := by
  -- Rows are computed from what is known at the time; the claim is about what is known in the end.
  induction tables generalizing taken start log with
  | nil =>
    obtain ⟨rfl, rfl⟩ := Action.follows_pure.1 h
    exact ⟨fun _ _ => rfl, by simpa using started, .nil⟩
  | cons t tables ih =>
    rw [List.foldlM_cons] at h
    obtain ⟨_, _, log, one, others, rfl⟩ := Action.follows_bind.1 h
    obtain ⟨back, _, _, inserted, ended, rfl⟩ := Action.follows_bind.1 one
    obtain ⟨rfl, rfl⟩ := Action.follows_pure.1 ended
    have distinct : (returning keys rows t).Nodup := Std.ExtTreeMap.nodup_keys
    obtain ⟨e, rfl, answered⟩ := answered_of_follows distinct inserted
    have split : taken ++ t :: tables = (taken ++ [t]) ++ tables := by simp
    have added : ∀ u, u ∈ start.insert t back ↔ u ∈ taken ++ [t] := by
      intro u
      rw [Std.ExtTreeMap.mem_insert, Std.compare_eq_iff_eq, started, List.mem_append,
        List.mem_singleton, or_comm, eq_comm]
    obtain ⟨frame, mem, each⟩ :=
      ih (taken ++ [t]) (split ▸ settled) (split ▸ nodup) (split ▸ all) added others
    have fresh := List.nodup_append.1 nodup
    have later : t ∉ tables := (List.nodup_cons.1 fresh.2.1).1
    refine ⟨fun u hu => ?_, by rwa [split], .cons ⟨back, ?_, ?_⟩ each⟩
    · obtain ⟨other, hu⟩ := List.ne_and_not_mem_of_not_mem_cons hu
      rw [frame u hu]
      simp [Std.ExtTreeMap.getElem?_insert, Ne.symm other]
    · rw [frame t later]
      simp
    · have final_row : row keys rows start references t = row keys rows final references t := by
        apply row_congr
        intro key hk hs
        by_cases ht : key.target ∈ written
        · have before := target_mem_taken settled all hk hs ht
          have outside : key.target ∉ tables := fun mem => fresh.2.2 _ before _ (by simp [mem]) rfl
          have other : t ≠ key.target := fun same => fresh.2.2 _ before t (by simp) same.symm
          rw [frame _ outside]
          simp [Std.ExtTreeMap.getElem?_insert, other]
        · have early : key.target ∉ start := by
            intro hm
            exact ht ((all _).2 (List.mem_append_left _ ((started _).1 hm)))
          have late : key.target ∉ final := by
            intro hm
            exact ht ((all _).2 (split ▸ (mem _).1 hm))
          rw [Std.ExtTreeMap.getElem?_eq_none early, Std.ExtTreeMap.getElem?_eq_none late]
      rwa [← final_row]

/-! ## The whole insertion -/

/-- What is known of the row of a table: what its own insert returned if the table is written, or
else the reference that is given for it. -/
def knownRow (outcome : InsertOutcome) (references : Records) (t : TableName) : Option Record :=
  if t ∈ outcome.order then outcome.returned[t]? else references.row? t

/-- The values that keys have for the column `c` of the row of a table, in the order of the keys and
of their columns. -/
def supplied (keys : List ForeignKey) (outcome : InsertOutcome) (references : Records)
    (t : TableName) (c : Text) : List Text :=
  (keys.filter (·.source = t)).flatMap fun key =>
    key.supplied ((knownRow outcome references key.target).getD ∅) c

/-- The value of the column `c` of the row of a table: the last one that a key supplies, or else the
row's own. -/
def bound (keys : List ForeignKey) (values references : Records) (outcome : InsertOutcome)
    (t : TableName) (c : Text) : Option Text :=
  (supplied keys outcome references t c).getLast?.or
    ((values.row? t).bind fun row => row[c]?.join)

/-- The exchange `e` inserts the row of the table `t`: the columns that have a value, reading back
what the keys of other written rows reference. -/
def Inserted (keys : List ForeignKey) (values references : Records) (outcome : InsertOutcome)
    (t : TableName) (e : Exchange) : Prop :=
  ∃ (row : Record) (returning : List Text) (back : Record),
    (∀ c, row[c]? = (bound keys values references outcome t c).map some) ∧
    returning.Pairwise (fun a b => compare a b = .lt) ∧
    (∀ c, c ∈ returning ↔ ∃ key ∈ keys,
      key.target = t ∧ key.source ∈ outcome.order ∧ c ∈ key.targetColumns) ∧
    Answered t row returning e back ∧ outcome.returned[t]? = some back

/-- An insertion of `values` did what `outcome` says, and `log` passed between it and a database. -/
structure Complete (keys : List ForeignKey) (values references : Records) (log : List Exchange)
    (outcome : InsertOutcome) : Prop where
  /-- The tables that have a value are written, in dependency order. -/
  ordered : ∃ written : List TableName, written.Pairwise (fun a b => compare a b = .lt) ∧
    (∀ t, t ∈ written ↔ values.HasValue t) ∧ dependencyOrder written keys = .ok outcome.order
  nodup : outcome.order.Nodup
  mem_order : ∀ t, t ∈ outcome.order ↔ values.HasValue t
  /-- The row that a key references is inserted before the row that references it. -/
  target_first : ∀ key ∈ keys, key.source ∈ outcome.order → key.target ∈ outcome.order →
    ∃ before between after,
      outcome.order = before ++ key.target :: between ++ key.source :: after
  mem_returned : ∀ t, t ∈ outcome.returned ↔ t ∈ outcome.order
  /-- One transaction inserts one row into each table. -/
  inserts : ∃ inserts : List Exchange,
    log = ⟨.begin, .ok ()⟩ :: inserts ++ [⟨.commit, .ok ()⟩] ∧
    List.Forall₂ (Inserted keys values references outcome) outcome.order inserts

theorem getElem?_row (returned : TableRows) (c : Text) :
    (row keys rows returned references t)[c]? =
      (((keys.filter (·.source = t)).flatMap fun key =>
        key.supplied (known returned references key) c).getLast?.or
          (rows[t]?.bind fun row => row[c]?.join)).map some := by
  have filled := getElem?_foldl
    (fun row key => Record.getElem?_fill row (known returned references key) key c)
    (keys.filter (·.source = t)) (rows[t]?.getD ∅).present
  rw [row, filled, Record.getElem?_present, ← Option.map_or]
  cases rows[t]? <;> simp

theorem known_eq {outcome : InsertOutcome} {references : Records} {found : TableRows}
    (returned : ∀ t, t ∈ outcome.returned ↔ t ∈ outcome.order)
    (given : ∀ t, found[t]? = references.row? t) (key : ForeignKey) :
    known outcome.returned found key = (knownRow outcome references key.target).getD ∅ := by
  unfold known knownRow
  rw [given]
  split
  next own =>
    rw [← returned, Std.ExtTreeMap.mem_iff_isSome_getElem?] at own
    rw [Option.or_of_isSome own]
  next other =>
    rw [← returned] at other
    rw [Std.ExtTreeMap.getElem?_eq_none other, Option.none_or]

/-- Rows without a value have nothing to add to what keys supply. -/
theorem own_eq {given : TableRows} (read : values.byTable = .ok given) (c : Text) :
    (((given.filter fun _ row => !row.isAllNull)[t]?).bind fun row => row[c]?.join) =
      (values.row? t).bind fun row => row[c]?.join := by
  rw [← Records.getElem?_of_byTable read, Std.ExtTreeMap.getElem?_filter']
  cases given[t]? with
  | none => rfl
  | some row =>
    by_cases null : row.isAllNull
    · have empty : row[c]?.join = none := by
        rcases h : row[c]? with _ | _ | v
        · rfl
        · rfl
        · rw [Record.isAllNull_eq_false.2 ⟨c, v, h⟩] at null
          cases null
      simp [null, empty]
    · simp [Option.filter_some, null]

/-- The steps of an insertion that succeeds. -/
theorem steps_of_follows {outcome : InsertOutcome} {references : Records}
    (h : (insertRows keys values references).Follows log outcome) :
    ∃ given known inserts, values.byTable = .ok given ∧ references.byTable = .ok known ∧
      dependencyOrder (given.filter fun _ row => !row.isAllNull).keys keys = .ok outcome.order ∧
      (outcome.order.foldlM (step keys (given.filter fun _ row => !row.isAllNull) known) ∅).Follows
        inserts outcome.returned ∧
      log = ⟨.begin, .ok ()⟩ :: inserts ++ [⟨.commit, .ok ()⟩] := by
  obtain ⟨given, readValues, h⟩ := Action.follows_ofExcept_bind.1 h
  dsimp only at h
  split at h
  · obtain ⟨_, _, _, thrown, -⟩ := Action.follows_bind.1 h
    exact absurd thrown Action.not_follows_throw
  · obtain ⟨known, readReferences, h⟩ := Action.follows_ofExcept_bind.1 h
    obtain ⟨order, sorted, h⟩ := Action.follows_ofExcept_bind.1 h
    obtain ⟨returned, _, _, transaction, ended, rfl⟩ := Action.follows_bind.1 h
    obtain ⟨inserts, written, rfl⟩ := Action.follows_inTransaction transaction
    obtain ⟨rfl, rfl⟩ := Action.follows_pure.1 ended
    exact ⟨given, known, inserts, readValues, readReferences, sorted, written, by simp⟩

end Insertion

open Insertion

/-- Whenever an insertion into several tables succeeds, it has inserted one row into each table that
has a value, in dependency order and in one transaction. A column holds the last value that a key
supplies, or else the row's own. Keys of written rows supply what the inserts of the rows they
reference returned; other keys supply what the references say. -/
theorem insertRows_complete (server : Server σ) (s : σ) (keys : List ForeignKey)
    (values references : Records) (outcome : InsertOutcome)
    (h : (insertRows keys values references).result server s = .ok outcome) :
    Complete keys values references ((insertRows keys values references).transcript server s)
      outcome := by
  obtain ⟨given, found, inserts, readValues, readReferences, sorted, steps, log⟩ :=
    steps_of_follows (Action.follows_transcript h)
  generalize hw : given.filter (fun _ row => !row.isAllNull) = rows at sorted steps
  have written : ∀ t, t ∈ rows ↔ values.HasValue t := by
    intro t
    simp only [Std.ExtTreeMap.mem_iff_isSome_getElem?, Option.isSome_iff_exists, ← hw,
      getElem?_filter_isAllNull, Records.getElem?_of_byTable readValues, Records.HasValue]
  have nodup : rows.keys.Nodup := Std.ExtTreeMap.nodup_keys
  obtain ⟨each, settled⟩ := dependencyOrder_eq_ok nodup sorted
  have mem : ∀ t, t ∈ outcome.order ↔ t ∈ rows := by
    intro t
    rw [each.mem_iff, Std.ExtTreeMap.mem_keys]
  obtain ⟨-, returned, inserted⟩ := follows_foldlM_step [] settled (each.nodup_iff.2 nodup)
    (fun u => each.mem_iff.symm) (by simp) steps
  refine ⟨⟨rows.keys, Std.ExtTreeMap.ordered_keys, ?_, sorted⟩, each.nodup_iff.2 nodup, ?_, ?_,
    returned, inserts, log, inserted.imp fun t e ⟨back, kept, answered⟩ => ?_⟩
  · intro t
    rw [Std.ExtTreeMap.mem_keys, written]
  · intro t
    rw [mem, written]
  · intro key hk hs ht
    exact settled.exists_split each hk (each.mem_iff.1 hs) (each.mem_iff.1 ht)
  · refine ⟨_, _, back, fun c => ?_, pairwise_returning, fun c => ?_, answered, kept⟩
    · simp only [getElem?_row, bound, supplied, known_eq returned
        (Records.getElem?_of_byTable readReferences)]
      rw [← own_eq readValues, hw]
    · rw [mem_returning]
      simp only [mem]

/-- A line of an order gets the number that the order's own insert returned. -/
theorem insertRows_complete_order :
    let order : TableName := ⟨"shop", "orders"⟩
    let line : TableName := ⟨"shop", "lines"⟩
    let keys : List ForeignKey := [⟨line, order, ["order_id"], ["id"]⟩]
    let values : Records := (∅ : Records)
      |>.insert "shop.lines" ((∅ : Record).insert "item" (some "pen"))
      |>.insert "shop.orders" ((∅ : Record).insert "customer" (some "Ann") |>.insert "note" none)
    let server := Scripted.server ⟨[], ∅, [], ∅, none⟩
    let script := Script.restart [.rows [[some "7"]], .affected 1]
    ∃ outcome, (insertRows keys values ∅).result server script = .ok outcome ∧
      Complete keys values ∅ ((insertRows keys values ∅).transcript server script) outcome := by
  intro order line keys values server script
  have succeeds : ((insertRows keys values ∅).result server script).isOk = true := by
    decide +kernel
  cases h : (insertRows keys values ∅).result server script with
  | error e =>
    rw [h] at succeeds
    cases succeeds
  | ok outcome => exact ⟨outcome, rfl, insertRows_complete server script keys values ∅ outcome h⟩

end JoinSheet
