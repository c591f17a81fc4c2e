import JoinSheet.Proofs.Sheet.Loading
import JoinSheet.Proofs.Sheet.Reachable
import JoinSheet.Proofs.Write.Atomic
import JoinSheet.Server.Scripted

/-!
# Writing along the join path of a sheet

Each key of a join path ties a new table to one that is there already, whichever of the two it
references. So the tables can be ranked one after the other: a new table gets a rank above or below
that of the table it is tied to, as the key asks. Every key then leads from a higher rank to a lower
one, and no keys form a cycle.

## Main statements

* `JoinPath.Resolved.exists_rank` — the tables of a path have ranks that its keys go down.
* `Sheet.Reachable.resolved` — the path of a reachable sheet has been resolved.
* `Sheet.Reachable.order_of_path` — tables can always be ordered along the path of a sheet.
-/

open Relation

namespace JoinSheet

open Dependency

namespace JoinPath

variable {c : Catalog} {p : JoinPath}

@[simp] theorem keys_extend (p : JoinPath) (l : Link) : (p.extend l).keys = p.keys ++ [l.key] := by
  simp [keys]

/-- The ends of the keys of a path are tables of the path. -/
theorem Resolved.ends_mem (h : p.Resolved c) :
    ∀ key ∈ p.keys, key.source ∈ p.tables ∧ key.target ∈ p.tables := by
  induction h with
  | base base => exact nofun
  | @extend p l _ attaches _ ih =>
    intro key mem
    rw [keys_extend, List.mem_append, List.mem_singleton] at mem
    rw [tables_extend]
    rcases mem with old | rfl
    · obtain ⟨source, target⟩ := ih key old
      exact ⟨List.mem_append_left _ source, List.mem_append_left _ target⟩
    · obtain ⟨-, t, there, reaches⟩ := attaches
      rcases ForeignKey.ends_of_otherSide? reaches with ⟨source, target⟩ | ⟨source, target⟩
      · rw [source, target]
        exact ⟨List.mem_append_right _ List.mem_cons_self, List.mem_append_left _ there⟩
      · rw [source, target]
        exact ⟨List.mem_append_left _ there, List.mem_append_right _ List.mem_cons_self⟩

/-- The tables of a path have ranks that each of its keys goes down. -/
theorem Resolved.exists_rank (h : p.Resolved c) :
    ∃ rank : TableName → Int, ∀ key ∈ p.keys, rank key.target < rank key.source := by
  induction h with
  | base base => exact ⟨fun _ => 0, nofun⟩
  | @extend p l before attaches _ ih =>
    obtain ⟨rank, down⟩ := ih
    obtain ⟨new, t, there, reaches⟩ := attaches
    -- The table that is added is ranked beside the one that it is tied to; no other rank changes.
    let rank' : TableName → Int :=
      Function.update rank l.table (if l.key.source = l.table then rank t + 1 else rank t - 1)
    have same {u : TableName} (hu : u ∈ p.tables) : rank' u = rank u := by
      refine Function.update_of_ne ?_ _ _
      rintro rfl
      exact new hu
    refine ⟨rank', fun key mem => ?_⟩
    rw [keys_extend, List.mem_append, List.mem_singleton] at mem
    rcases mem with old | rfl
    · obtain ⟨source, target⟩ := before.ends_mem key old
      rw [same source, same target]
      exact down key old
    · have own : rank' l.table = if l.key.source = l.table then rank t + 1 else rank t - 1 :=
        Function.update_self ..
      rcases ForeignKey.ends_of_otherSide? reaches with ⟨source, target⟩ | ⟨source, target⟩
      · rw [source, target, own, if_pos source, same there]
        omega
      · have apart : l.key.source ≠ l.table := by
          rw [source]
          rintro rfl
          exact new there
        rw [target, own, if_neg apart, source, same there]
        omega

/-- Along the keys of a path, no table leads back to itself. -/
theorem Resolved.not_transGen_self (h : p.Resolved c) {r : TableName → TableName → Prop}
    (along : ∀ a b, r a b → ∃ key ∈ p.keys, key.target = a ∧ key.source = b) (t : TableName) :
    ¬TransGen r t t := by
  obtain ⟨rank, down⟩ := h.exists_rank
  have step (a b : TableName) (edge : r a b) : rank a < rank b := by
    obtain ⟨key, mem, rfl, rfl⟩ := along a b edge
    exact down key mem
  intro cycle
  have ranked : TransGen (· < ·) (rank t) (rank t) := cycle.lift rank step
  rw [transGen_eq_self] at ranked
  exact lt_irrefl _ ranked

end JoinPath

/-! ## Failures of an insertion -/

/-- A statement that inserts a row cannot be built because a name may not enter it. -/
theorem Sql.exists_of_insert_eq_error {table : TableName} {values : Record} {returning : List Text}
    {e : Error} (h : Sql.insert table values returning = .error e) : ∃ fault, e = .unsafeSql fault := by
  have unwritable {names : List Text} (h : names.mapM writable = .error e) :
      ∃ fault, e = .unsafeSql fault := by
    obtain ⟨name, -, h⟩ := Except.exists_of_mapM_eq_error h
    unfold writable at h
    split at h
    · cases h
    · exact ⟨_, (Except.error.inj h).symm⟩
  have unreadable {t : Text} (h : Identifier.read t = .error e) : ∃ fault, e = .unsafeSql fault := by
    unfold Identifier.read at h
    split at h
    · exact ⟨_, (Except.error.inj h).symm⟩
    · split at h
      · exact ⟨_, (Except.error.inj h).symm⟩
      · split at h
        · cases h
        · exact ⟨_, (Except.error.inj h).symm⟩
  unfold Sql.insert at h
  split at h
  · exact ⟨_, (Except.error.inj h).symm⟩
  obtain unwritten | ⟨_, _, h⟩ := Except.bind_eq_error.1 h
  · exact unwritable unwritten
  obtain unread | ⟨_, _, h⟩ := Except.bind_eq_error.1 h
  · exact unreadable unread
  obtain unwritten | ⟨_, _, h⟩ := Except.bind_eq_error.1 h
  · exact unwritable unwritten
  · cases h

namespace Insertion

variable {keys : List ForeignKey} {values references : Records}

/-- The row of a table fails to be inserted because a name may not enter the statement, or because
no row is read back. -/
theorem cause_of_statement {t : TableName} {row : Record} {returning : List Text} {e : Error}
    (h : Statement.Breaks (statement t row returning) e) :
    (∃ fault, e = .unsafeSql fault) ∨ e = .write (.noRowReturned t) := by
  rw [statement] at h
  rcases h with unbuilt | ⟨_, reply, built, unread⟩
  · cases sql : Sql.insert t row returning with
    | error =>
      rw [sql] at unbuilt
      cases unbuilt
      exact .inl (Sql.exists_of_insert_eq_error sql)
    | ok text =>
      rw [sql] at unbuilt
      cases unbuilt
  · obtain ⟨sql, -, made⟩ := Except.map_eq_ok.1 built
    by_cases none : returning = []
    · rw [if_pos none] at made
      cases made
      cases unread
    · rw [if_neg none] at made
      cases made
      cases reply with
      | nil =>
        cases unread
        exact .inr rfl
      | cons => cases unread

/-- The statements of a plan fail as those of single rows do. -/
theorem cause_of_plan {p : Plan TableName TableRows} {b : TableRows} {t : TableName} {e : Error}
    (planned : plan keys values references = .ok p) (h : Statement.Breaks (p.statement b t) e) :
    (∃ fault, e = .unsafeSql fault) ∨ e = .write (.noRowReturned t) := by
  obtain ⟨given, -, known⟩ := Except.bind_eq_ok.1 planned
  dsimp only at known
  split at known
  · cases known
  obtain ⟨found, -, sorted⟩ := Except.bind_eq_ok.1 known
  obtain ⟨order, -, made⟩ := Except.bind_eq_ok.1 sorted
  cases made
  exact cause_of_statement h.of_map

/-- An insertion that reports a cycle was refused for it, unless the report is the database's own. -/
theorem refused_or_answered_of_cycle {log : List Exchange} {stuck : List TableName}
    (h : (insertRows keys values references).Ends log (.error (.graph (.cycle stuck)))) :
    Refused keys values references (.graph (.cycle stuck)) ∨
      ∃ x ∈ log, x.answer = .error (.graph (.cycle stuck)) := by
  rw [insertRows_eq] at h
  rcases Plan.cause_of_carryOut h with unplanned | answered | ⟨p, b, t, planned, breaks⟩
  · exact .inl (refused_of_plan_eq_error unplanned)
  · exact .inr answered
  · rcases cause_of_plan planned breaks with ⟨_, other⟩ | other <;> cases other

end Insertion

/-! ## Join paths of sheets -/

namespace Sheet

variable {s s' : Sheet}

/-- What a command puts in the place of a sheet has a path that has been resolved, if the sheet had
one. The catalogs need not be the same. -/
theorem Becomes.resolved {connection : Option Dialect} {command : Command}
    (h : s.Becomes connection command s') (before : ∃ c, s.path.Resolved c) :
    ∃ c, s'.path.Resolved c := by
  have of_same (same : SameTables s s') : ∃ c, s'.path.Resolved c := by rwa [same.1]
  cases h with
  | setTable chosen =>
    obtain ⟨t, -, chosen⟩ := Except.bind_eq_ok.1 chosen
    cases chosen
    split
    · exact before
    · exact ⟨{}, .base t⟩
  | @setJoin index id c c' log _ chosen =>
    obtain rfl | ⟨ids, path, found, rfl⟩ := eq_or_setPath_of_setJoin chosen
    · exact before
    · have resolved := Dialogue.Always.of_follows (JoinPath.grows_resolve s.path.base ids c) found
      exact ⟨c', resolved.2 path rfl⟩
  | truncateJoins n =>
    obtain ⟨c, resolved⟩ := before
    unfold Sheet.truncateJoins
    split
    · exact ⟨c, resolved⟩
    · exact ⟨c, resolved.truncate n⟩
  | setPreference => exact before
  | load _ _ loaded =>
    obtain ⟨page, rest, evaluated⟩ := exists_page_of_loadRows loaded
    have same := evaluated.of_yields (yields_recompute (s.setPage page) _)
    rw [same.1]
    exact before
  | recompute done => exact of_same (done.of_yields (s.yields_recompute connection))
  | addColumn added => exact of_same (sameTables_addColumn added)
  | renameColumn renamed => exact of_same (sameTables_renameColumn renamed)
  | deleteColumn deleted => exact of_same (sameTables_deleteColumn deleted)
  | setCell written => exact of_same (written.of_yields (s.yields_setCell ..))
  | fillDown filled => exact of_same (filled.of_yields (s.yields_fillDown ..))

/-- The path of a reachable sheet has been resolved with some catalog. -/
theorem Reachable.resolved (h : s.Reachable) : ∃ c, s.path.Resolved c :=
  h.of_becomes (P := fun s => ∃ c, s.path.Resolved c) (fun base _ => ⟨{}, .base base⟩)
    fun _ _ _ _ before becomes => becomes.resolved before

/-- Along the path of a reachable sheet, any tables can be ordered. So no insertion along the path
fails for a cycle, unless the database itself reports one. -/
theorem Reachable.order_of_path (h : s.Reachable) :
    (∀ tables : Std.ExtTreeSet TableName,
      ∃ order, dependencyOrder tables.toList s.path.keys = .ok order) ∧
    ∀ (σ : Type) (server : Server σ) (d : σ) (values references : Records)
      (stuck : List TableName),
      (insertRows s.path.keys values references).result server d = .error (.graph (.cycle stuck)) →
        ∃ x ∈ (insertRows s.path.keys values references).transcript server d,
          x.answer = .error (.graph (.cycle stuck)) := by
  obtain ⟨c, resolved⟩ := h.resolved
  constructor
  · intro tables
    have acyclic : (dependencyOrder tables.toList s.path.keys).isOk :=
      (isOk_dependencyOrder (nodup_toList tables)).2 <| resolved.not_transGen_self <| by
        rintro a b ⟨key, mem, target, source, -⟩
        exact ⟨key, mem, target, source⟩
    cases ordered : dependencyOrder tables.toList s.path.keys with
    | ok order => exact ⟨order, rfl⟩
    | error => simp [ordered, Except.isOk, Except.toBool] at acyclic
  · intro σ server d values references stuck failed
    have ended := Action.ends_transcript server (insertRows s.path.keys values references) d
    rw [failed] at ended
    obtain refused | answered := Insertion.refused_or_answered_of_cycle ended
    · cases refused with
      | @cycle t _ around =>
        refine absurd around (resolved.not_transGen_self ?_ t)
        rintro a b ⟨key, mem, target, source, -⟩
        exact ⟨key, mem, target, source⟩
    · exact answered

/-- Orders are joined to their lines, which reference them, and to the customers that they
reference. All three tables can be ordered, with one that has no part in the path. -/
theorem order_of_path_orders : ∃ s : Sheet, s.Reachable ∧
    s.path.tables = [⟨"shop", "orders"⟩, ⟨"shop", "lines"⟩, ⟨"shop", "customers"⟩] ∧
    ∃ order, dependencyOrder ((∅ : Std.ExtTreeSet TableName).insertMany
      (⟨"shop", "wares"⟩ :: s.path.tables)).toList s.path.keys = .ok order := by
  have join {s : Sheet} (h : s.Reachable) (i : Nat) (id : ConstraintId) :=
    h.command (Catalog.ofTables [⟨"shop", "lines"⟩, ⟨"shop", "orders"⟩, ⟨"shop", "customers"⟩])
      (Scripted.server { tables := [], columns := ∅, keysFor := ∅, failing := none, keys :=
        [(7, ⟨⟨"shop", "lines"⟩, ⟨"shop", "orders"⟩, ["order_id"], ["id"]⟩),
          (8, ⟨⟨"shop", "orders"⟩, ⟨"shop", "customers"⟩, ["customer"], ["id"]⟩)] })
      {} (some .sqlite) (.setJoin i id)
  have reachable := join (join (.start ⟨"shop", "orders"⟩ {}) 0 7) 1 8
  exact ⟨_, reachable, by decide +kernel, reachable.order_of_path.1 _⟩

end Sheet

end JoinSheet
