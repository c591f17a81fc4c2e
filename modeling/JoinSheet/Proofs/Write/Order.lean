import Mathlib.Data.Fintype.Card
import Mathlib.Data.List.Basic
import Mathlib.Data.Set.Finite.Basic
import Mathlib.Logic.Relation
import JoinSheet.Write.Order

/-!
# The dependency order is a topological order

The sort never loses count: at every step, what a table waits for is the number of its demands for
tables that are not taken. So it takes a table exactly if everything that has to precede the table
can be taken before. Over finitely many tables this fails only on cycles and behind them.

## Main definitions

* `Dependency.unmet` — how many demands of a table are open.
* `Dependency.Accounts` — what holds between any two steps of the sort.
* `Dependency.Settled` — a taken table comes after everything that has to precede it.
* `Dependency.Precedes` — the graph of the keys between given tables.
-/

open Relation

namespace JoinSheet

namespace Dependency

variable {deps : List Dependency} {tables taken order queue : List TableName} {t u : TableName}

/-! ## Counting -/

/-- How many demands of the table `u` are for tables that are not `taken`. -/
def unmet (deps : List Dependency) (taken : List TableName) (u : TableName) : Nat :=
  deps.countP fun d => d.after = u ∧ d.before ∉ taken

theorem unmet_cons (d : Dependency) (deps : List Dependency) (taken : List TableName)
    (u : TableName) : unmet (d :: deps) taken u =
      (if d.after = u ∧ d.before ∉ taken then 1 else 0) + unmet deps taken u := by
  simp only [unmet, List.countP_cons, decide_eq_true_eq]
  omega

theorem unmet_eq_zero : unmet deps taken u = 0 ↔ ∀ d ∈ deps, d.after = u → d.before ∈ taken := by
  simp [unmet, List.countP_eq_zero]

theorem meet_map (tables : List TableName) (w : TableName → Nat) (t : TableName) :
    Counts.meet (tables.map fun u => (u, w u)) t =
      tables.map fun u => (u, if u = t then w u - 1 else w u) := by
  simp [Counts.meet]

theorem stuck_map (tables : List TableName) (w : TableName → Nat) :
    Counts.stuck (tables.map fun u => (u, w u)) = tables.filter fun u => 0 < w u := by
  simp [Counts.stuck, List.filter_map, Function.comp_def]

theorem ready_map (tables : List TableName) (w : TableName → Nat) :
    Counts.ready (tables.map fun u => (u, w u)) = tables.filter fun u => w u = 0 := by
  simp [Counts.ready, List.filter_map, Function.comp_def]

/-! ## One table is taken -/

/-- Where the sort stands: every table waits for what `w` says, and those that wait for nothing are
taken or in the queue, each once. -/
structure Accounts (tables taken : List TableName) (s : List TableName × Counts)
    (w : TableName → Nat) : Prop where
  counts : s.2 = tables.map fun u => (u, w u)
  nodup : (taken ++ s.1).Nodup
  mem : ∀ u, u ∈ taken ++ s.1 ↔ u ∈ tables ∧ w u = 0

/-- The count of a table that waits is found and goes down by one. It reaches zero once only. -/
theorem Accounts.serve {s : List TableName × Counts} {w : TableName → Nat} {d : Dependency}
    (acc : Accounts tables taken s w) (known : d.after ∈ tables) (waits : 0 < w d.after) :
    Accounts tables taken (Dependency.serve d.before s d)
      fun u => if u = d.after then w u - 1 else w u := by
  obtain ⟨n, hn⟩ := Nat.exists_eq_succ_of_ne_zero waits.ne'
  have found : s.2.lookup d.after = some (n + 1) := by
    rw [acc.counts, List.lookup_graph w known, hn]
  have fresh : d.after ∉ taken ++ s.1 := by
    intro taken
    have := (acc.mem _).1 taken
    omega
  simp only [Dependency.serve, if_true, found]
  by_cases last : n = 0
  · refine ⟨?_, ?_, fun u => ?_⟩
    · rw [acc.counts, meet_map]
    · simp only [last, if_true, ← List.append_assoc]
      refine List.nodup_append.2 ⟨acc.nodup, by simp, fun u old => ?_⟩
      simp only [List.mem_singleton, forall_eq]
      rintro rfl
      exact fresh old
    · simp only [last, if_true, ← List.append_assoc, List.mem_append (s := _ ++ _), acc.mem]
      by_cases same : u = d.after
      · subst same
        simp [known, hn, last]
      · simp [same]
  · refine ⟨?_, ?_, fun u => ?_⟩
    · rw [acc.counts, meet_map]
    · simpa only [last, if_false] using acc.nodup
    · simp only [last, if_false, acc.mem]
      by_cases same : u = d.after
      · subst same
        simp only [if_true]
        omega
      · simp [same]

/-- Taking `t` meets the demands for it and no others. `f` counts those met or passed already. -/
theorem Accounts.serveAll {s : List TableName × Counts} (f : TableName → Nat) (new : t ∉ order)
    (known : ∀ d ∈ deps, d.after ∈ tables)
    (acc : Accounts tables taken s fun u => f u + unmet deps order u) :
    Accounts tables taken (Dependency.serveAll t deps s)
      fun u => f u + unmet deps (order ++ [t]) u := by
  induction deps generalizing s f with
  | nil => exact acc
  | cons d deps ih =>
    obtain ⟨knownHead, known⟩ := List.forall_mem_cons.1 known
    rw [Dependency.serveAll, List.foldl_cons]
    simp only [unmet_cons, ← Nat.add_assoc] at acc ⊢
    -- The head moves from the demands to come to those that `f` counts.
    apply ih _ known
    by_cases here : d.before = t
    · subst here
      have met := acc.serve knownHead (by rw [if_pos ⟨rfl, new⟩]; omega)
      convert met using 2 with u
      by_cases same : u = d.after
      · subst same
        simp [new]
      · simp [same, Ne.symm same]
    · have passed : Dependency.serve t s d = s := if_neg here
      rw [passed]
      simpa [here] using acc

/-! ## All tables are taken -/

/-- Every table of `order` comes after everything that has to precede it. -/
def Settled (deps : List Dependency) (order : List TableName) : Prop :=
  ∀ before t after, order = before ++ t :: after → ∀ d ∈ deps, d.after = t → d.before ∈ before

theorem Settled.append_singleton (settled : Settled deps order)
    (ready : ∀ d ∈ deps, d.after = t → d.before ∈ order) : Settled deps (order ++ [t]) := by
  intro before u after split
  rcases List.eq_nil_or_concat after with rfl | ⟨after, last, rfl⟩
  · obtain ⟨rfl, same⟩ := List.append_inj' split rfl
    obtain rfl : t = u := by simpa using same
    exact ready
  · have split : order ++ [t] = (before ++ u :: after) ++ [last] := by simpa using split
    obtain ⟨rfl, -⟩ := List.append_inj' split rfl
    exact settled before u after rfl

/-- What the sort keeps from one table to the next, it has kept when the queue is empty. -/
theorem drain_spec {counts : Counts} (known : ∀ d ∈ deps, d.after ∈ tables)
    (acc : Accounts tables order (queue, counts) (unmet deps order))
    (settled : Settled deps order) :
    Accounts tables (drain deps order queue counts).1 ([], (drain deps order queue counts).2)
        (unmet deps (drain deps order queue counts).1) ∧
      Settled deps (drain deps order queue counts).1 := by
  induction order, queue, counts using drain.induct deps with
  | case1 order counts =>
    rw [drain]
    exact ⟨acc, settled⟩
  | case2 order counts t queue served ih =>
    rw [drain]
    have new : t ∉ order := by
      have := List.nodup_append.1 acc.nodup
      exact fun old => this.2.2 t old t (by simp) rfl
    have ready : unmet deps order t = 0 := ((acc.mem t).1 (by simp)).2
    apply ih
    · have start : Accounts tables (order ++ [t]) (queue, counts)
          fun u => 0 + unmet deps order u := by
        simp only [Nat.zero_add]
        exact ⟨acc.counts, by simpa using acc.nodup, by simpa using acc.mem⟩
      have done := start.serveAll (fun _ => 0) new known
      simpa only [Nat.zero_add] using done
    · exact settled.append_singleton (unmet_eq_zero.1 ready)

variable (deps tables) in
/-- The tables taken are those whose demands can all be met, each once and in order. The others are
the ones left. -/
theorem sort_spec (nodup : tables.Nodup) (known : ∀ d ∈ deps, d.after ∈ tables) :
    (sort deps tables).1.Nodup ∧
      (∀ t, t ∈ (sort deps tables).1 ↔
        t ∈ tables ∧ ∀ d ∈ deps, d.after = t → d.before ∈ (sort deps tables).1) ∧
      Settled deps (sort deps tables).1 ∧
      (sort deps tables).2.stuck = tables.filter (· ∉ (sort deps tables).1) := by
  have start : Accounts tables [] ((count deps tables).ready, count deps tables)
      (unmet deps []) := by
    have counts : count deps tables = tables.map fun u => (u, unmet deps [] u) := by
      simp [count, unmet]
    rw [counts, ready_map]
    exact ⟨rfl, by simpa using nodup.filter _, by simp⟩
  have empty : Settled deps [] := by
    intro before t after split
    simp at split
  obtain ⟨acc, settled⟩ := drain_spec known start empty
  have mem : ∀ t, t ∈ (sort deps tables).1 ↔
      t ∈ tables ∧ unmet deps (sort deps tables).1 t = 0 := by
    intro t
    have := acc.mem t
    rwa [List.append_nil] at this
  have nodup : (sort deps tables).1.Nodup := by
    have := acc.nodup
    rwa [List.append_nil] at this
  refine ⟨nodup, ?_, settled, ?_⟩
  · simpa only [unmet_eq_zero] using mem
  · have counts : (sort deps tables).2 = _ := acc.counts
    rw [counts, stuck_map]
    apply List.filter_congr
    intro t ht
    have := mem t
    simp only [ht, true_and] at this
    simp only [this]
    exact decide_eq_decide.2 Nat.pos_iff_ne_zero

/-! ## Cycles -/

/-- The table `a` has to precede the table `b`. -/
def Precedes (deps : List Dependency) (a b : TableName) : Prop := ⟨a, b⟩ ∈ deps

/-- A table is on a cycle or behind one. -/
def Blocked (r : TableName → TableName → Prop) (t : TableName) : Prop :=
  ∃ c, TransGen r c c ∧ ReflTransGen r c t

theorem Settled.mem_of_transGen (settled : Settled deps order)
    {before after : List TableName} (split : order = before ++ t :: after)
    (path : TransGen (Precedes deps) u t) : u ∈ before := by
  induction path generalizing before after with
  | single step => exact settled _ _ _ split _ step rfl
  | @tail v t _ step ih =>
    have between : v ∈ before := settled _ _ _ split _ step rfl
    obtain ⟨left, right, rfl⟩ := List.append_of_mem between
    have : u ∈ left := ih (by simpa using split)
    simp [this]

/-- A table of an order cannot precede itself. -/
theorem Settled.not_transGen_self (settled : Settled deps order) (nodup : order.Nodup)
    (ht : t ∈ order) : ¬TransGen (Precedes deps) t t := by
  intro path
  obtain ⟨before, after, split⟩ := List.append_of_mem ht
  have twice : t ∈ before := settled.mem_of_transGen split path
  rw [split] at nodup
  exact (List.nodup_append.1 nodup).2.2 t twice t (by simp) rfl

theorem Settled.not_blocked (settled : Settled deps order) (nodup : order.Nodup)
    (ht : t ∈ order) : ¬Blocked (Precedes deps) t := by
  rintro ⟨c, cycle, path⟩
  have hc : c ∈ order := by
    rcases reflTransGen_iff_eq_or_transGen.1 path with rfl | path
    · exact ht
    · obtain ⟨before, after, split⟩ := List.append_of_mem ht
      have := settled.mem_of_transGen split path
      simp [split, this]
  exact settled.not_transGen_self nodup hc cycle

/-- Whatever is not blocked is taken: going back from it along demands ends, for the tables are
finitely many and none of them is met twice. -/
theorem mem_of_not_blocked
    (closed : ∀ t ∈ tables, (∀ d ∈ deps, d.after = t → d.before ∈ order) → t ∈ order)
    (known : ∀ d ∈ deps, d.before ∈ tables) (ht : t ∈ tables)
    (free : ¬Blocked (Precedes deps) t) : t ∈ order := by
  let Behind := { u // u ∈ tables ∧ ReflTransGen (Precedes deps) u t }
  let before : Behind → Behind → Prop := fun a b => TransGen (Precedes deps) a b
  have : Finite Behind := ((List.finite_toSet tables).subset fun _ h => h.1).to_subtype
  have : IsTrans Behind before := ⟨fun _ _ _ => TransGen.trans⟩
  have : Std.Irrefl before := ⟨fun u cycle => free ⟨u, cycle, u.2.2⟩⟩
  have back : WellFounded before := Finite.wellFounded_of_trans_of_irrefl _
  suffices all : ∀ u : Behind, u.1 ∈ order from all ⟨t, ht, .refl⟩
  intro u
  induction u using back.induction with
  | _ u ih =>
    apply closed u.1 u.2.1
    intro d hd same
    have step : Precedes deps d.before u.1 := by
      rw [← same]
      exact hd
    exact ih ⟨d.before, known d hd, .head step u.2.2⟩ (.single step)

theorem mem_sort_iff (nodup : tables.Nodup)
    (known : ∀ d ∈ deps, d.before ∈ tables ∧ d.after ∈ tables) :
    t ∈ (sort deps tables).1 ↔ t ∈ tables ∧ ¬Blocked (Precedes deps) t := by
  obtain ⟨unique, mem, settled, -⟩ := sort_spec deps tables nodup fun d hd => (known d hd).2
  constructor
  · intro ht
    exact ⟨((mem t).1 ht).1, settled.not_blocked unique ht⟩
  · rintro ⟨ht, free⟩
    refine mem_of_not_blocked (fun u hu met => ?_) (fun d hd => (known d hd).1) ht free
    exact (mem u).2 ⟨hu, met⟩

/-! ## The order of keys -/

/-- A key of `keys` references the table `a` from the table `b`, both among the `tables`. -/
def References (tables : List TableName) (keys : List ForeignKey) (a b : TableName) : Prop :=
  ∃ key ∈ keys, key.target = a ∧ key.source = b ∧ a ∈ tables ∧ b ∈ tables

theorem precedes_ofKeys (tables : List TableName) (keys : List ForeignKey) :
    Precedes (ofKeys tables keys) = References tables keys := by
  funext a b
  simp only [Precedes, References, ofKeys, List.mem_map, List.mem_filter, mk.injEq,
    Bool.and_eq_true, decide_eq_true_eq, eq_iff_iff]
  constructor
  · rintro ⟨key, ⟨hk, hs, ht⟩, rfl, rfl⟩
    exact ⟨key, hk, rfl, rfl, ht, hs⟩
  · rintro ⟨key, hk, rfl, rfl, ht, hs⟩
    exact ⟨key, ⟨hk, hs, ht⟩, rfl, rfl⟩

theorem mem_of_mem_ofKeys {tables : List TableName} {keys : List ForeignKey} {d : Dependency}
    (hd : d ∈ ofKeys tables keys) : d.before ∈ tables ∧ d.after ∈ tables := by
  have : References tables keys d.before d.after := precedes_ofKeys tables keys ▸ hd
  obtain ⟨_, _, _, _, ends⟩ := this
  exact ends

end Dependency

open Dependency

variable {tables order : List TableName} {keys : List ForeignKey} {t u : TableName}

theorem subperm_sort_ofKeys (nodup : tables.Nodup) :
    (sort (ofKeys tables keys) tables).1.Subperm tables := by
  obtain ⟨unique, mem, -⟩ :=
    sort_spec (ofKeys tables keys) tables nodup fun _ hd => (mem_of_mem_ofKeys hd).2
  exact unique.subperm fun t ht => ((mem t).1 ht).1

/-- What is left when not all tables can be taken. -/
theorem stuck_sort_ofKeys (nodup : tables.Nodup) :
    (sort (ofKeys tables keys) tables).2.stuck =
      tables.filter (· ∉ (sort (ofKeys tables keys) tables).1) :=
  (sort_spec _ tables nodup fun _ hd => (mem_of_mem_ofKeys hd).2).2.2.2

theorem dependencyOrder_eq_ok (nodup : tables.Nodup) (h : dependencyOrder tables keys = .ok order) :
    order.Perm tables ∧ Settled (ofKeys tables keys) order := by
  obtain ⟨-, -, settled, -⟩ :=
    sort_spec (ofKeys tables keys) tables nodup fun _ hd => (mem_of_mem_ofKeys hd).2
  simp only [dependencyOrder] at h
  split at h
  · cases h
  · cases h
    exact ⟨(subperm_sort_ofKeys nodup).perm_of_length_le (by omega), settled⟩

/-- A table that is reached by references is one of the tables. -/
theorem mem_of_transGen (path : TransGen (References tables keys) t u) : u ∈ tables := by
  obtain ⟨_, _, _, _, _, _, _, hu⟩ := TransGen.tail'_iff.1 path
  exact hu

theorem Dependency.Blocked.mem (blocked : Blocked (References tables keys) t) : t ∈ tables := by
  obtain ⟨c, cycle, path⟩ := blocked
  exact mem_of_transGen (cycle.trans_left path)

theorem mem_sort_ofKeys_iff (nodup : tables.Nodup) :
    t ∈ (sort (ofKeys tables keys) tables).1 ↔
      t ∈ tables ∧ ¬Blocked (References tables keys) t := by
  rw [← precedes_ofKeys]
  exact mem_sort_iff nodup fun _ hd => mem_of_mem_ofKeys hd

/-- Some table is left exactly if the keys lead from some table back to it. -/
theorem length_sort_lt_iff (nodup : tables.Nodup) :
    (sort (ofKeys tables keys) tables).1.length < tables.length ↔
      ∃ t, TransGen (References tables keys) t t := by
  constructor
  · intro short
    by_contra acyclic
    have all : ∀ t ∈ tables, t ∈ (sort (ofKeys tables keys) tables).1 := by
      intro t ht
      refine (mem_sort_ofKeys_iff nodup).2 ⟨ht, ?_⟩
      rintro ⟨c, cycle, -⟩
      exact acyclic ⟨c, cycle⟩
    have := (nodup.subperm all).length_le
    omega
  · rintro ⟨t, cycle⟩
    by_contra long
    have inside : (sort (ofKeys tables keys) tables).1.Subperm tables :=
      subperm_sort_ofKeys nodup
    have taken : t ∈ (sort (ofKeys tables keys) tables).1 :=
      (inside.perm_of_length_le (by omega)).mem_iff.2 (mem_of_transGen cycle)
    exact ((mem_sort_ofKeys_iff nodup).1 taken).2 ⟨t, cycle, .refl⟩

theorem isOk_dependencyOrder (nodup : tables.Nodup) :
    (dependencyOrder tables keys).isOk ↔ ∀ t, ¬TransGen (References tables keys) t t := by
  rw [← not_exists, ← length_sort_lt_iff nodup]
  simp only [dependencyOrder]
  split
  next short => simp [short, Except.isOk, Except.toBool]
  next long => simp [long, Except.isOk, Except.toBool]

theorem dependencyOrder_eq_error {error : Error} (nodup : tables.Nodup)
    (h : dependencyOrder tables keys = .error error) :
    ∃ stuck, error = .graph (.cycle stuck) ∧ stuck.Sublist tables ∧
      ∀ t, t ∈ stuck ↔ Blocked (References tables keys) t := by
  simp only [dependencyOrder] at h
  split at h
  · cases h
    refine ⟨_, rfl, ?_, fun t => ?_⟩
    · rw [stuck_sort_ofKeys nodup]
      exact List.filter_sublist
    · rw [stuck_sort_ofKeys nodup, List.mem_filter, decide_eq_true_eq, mem_sort_ofKeys_iff nodup]
      constructor
      · rintro ⟨ht, left⟩
        by_contra free
        exact left ⟨ht, free⟩
      · intro blocked
        exact ⟨blocked.mem, fun taken => taken.2 blocked⟩
  · cases h

/-- A key's target comes before its source, with other tables around and between them. -/
theorem Dependency.Settled.exists_split {key : ForeignKey}
    (settled : Settled (ofKeys tables keys) order) (inside : order.Perm tables) (hk : key ∈ keys)
    (hs : key.source ∈ tables) (ht : key.target ∈ tables) :
    ∃ before between after, order = before ++ key.target :: between ++ key.source :: after := by
  have demand : ⟨key.target, key.source⟩ ∈ ofKeys tables keys := by
    have : References tables keys key.target key.source := ⟨key, hk, rfl, rfl, ht, hs⟩
    rwa [← precedes_ofKeys] at this
  obtain ⟨left, after, split⟩ := List.append_of_mem (inside.mem_iff.2 hs)
  have first : key.target ∈ left := settled _ _ _ split _ demand rfl
  obtain ⟨before, between, rfl⟩ := List.append_of_mem first
  exact ⟨before, between, after, split⟩

theorem nodup_toList (tables : Std.ExtTreeSet TableName) : tables.toList.Nodup := by
  apply tables.distinct_toList.imp
  rintro t u different rfl
  exact different Std.ReflCmp.compare_self

/-- Tables can be ordered exactly if the keys among them form no cycle. An order has every table
once and a key's target before its source; a failure names, in table order, the tables that are on a
cycle or behind one. The order of the keys plays no role for which of the two it is. -/
theorem dependencyOrder_spec (tables : Std.ExtTreeSet TableName) (keys : List ForeignKey) :
    ((dependencyOrder tables.toList keys).isOk ↔
      ∀ t, ¬TransGen (References tables.toList keys) t t) ∧
    (∀ order, dependencyOrder tables.toList keys = .ok order →
      order.Perm tables.toList ∧
      ∀ key ∈ keys, key.source ∈ tables → key.target ∈ tables →
        ∃ before between after, order = before ++ key.target :: between ++ key.source :: after) ∧
    (∀ error, dependencyOrder tables.toList keys = .error error →
      ∃ stuck : List TableName,
        error.report = ⟨.graph,
          "cycle detected among " ++ Text.joined ", " (stuck.map TableName.toText)⟩ ∧
        stuck.Sublist tables.toList ∧
        ∀ t, t ∈ stuck ↔ ∃ c, TransGen (References tables.toList keys) c c ∧
          ReflTransGen (References tables.toList keys) c t) ∧
    ∀ keys', keys'.Perm keys →
      (dependencyOrder tables.toList keys').isOk = (dependencyOrder tables.toList keys).isOk := by
  have nodup := nodup_toList tables
  refine ⟨isOk_dependencyOrder nodup, fun order h => ?_, fun error h => ?_, fun keys' same => ?_⟩
  · obtain ⟨each, settled⟩ := dependencyOrder_eq_ok nodup h
    refine ⟨each, fun key hk hs ht => ?_⟩
    exact settled.exists_split each hk (Std.ExtTreeSet.mem_toList.2 hs)
      (Std.ExtTreeSet.mem_toList.2 ht)
  · obtain ⟨stuck, rfl, sorted, mem⟩ := dependencyOrder_eq_error nodup h
    exact ⟨stuck, rfl, sorted, mem⟩
  · have : References tables.toList keys' = References tables.toList keys := by
      funext a b
      simp only [References, same.mem_iff]
    rw [Bool.eq_iff_iff, isOk_dependencyOrder nodup, isOk_dependencyOrder nodup, this]

end JoinSheet
