import JoinSheet.Error

/-!
# Dependency order

A row can be inserted once the rows it references are there. Tables are therefore taken in an order
in which every table that a key references comes before the tables that reference it. Every table
counts the demands it waits for. Tables are taken from a queue of those that wait for nothing; each
table taken meets demands of others and may make them ready.

## Main definitions

* `Dependency` — one table that has to precede another one.
* `Dependency.ofKeys` — what foreign keys demand among some tables.
* `Dependency.Counts` — how many demands each table waits for.
* `Dependency.sort` — the tables that can be ordered, in order, and the demands that are left.
* `dependencyOrder` — the order of all tables, or the cycle that prevents one.
-/

namespace JoinSheet

/-- The table `before` has to precede the table `after`. -/
structure Dependency where
  before : TableName
  after : TableName
  deriving DecidableEq, Repr

namespace Dependency

/-- What foreign keys demand among some tables. Keys with an end elsewhere demand nothing. -/
def ofKeys (tables : List TableName) (keys : List ForeignKey) : List Dependency :=
  (keys.filter fun key => key.source ∈ tables && key.target ∈ tables).map fun key =>
    ⟨key.target, key.source⟩

/-- How many demands each table waits for, in table order. -/
abbrev Counts := List (TableName × Nat)

/-- The demands of all tables before any is taken. Equal demands count separately. -/
def count (deps : List Dependency) (tables : List TableName) : Counts :=
  tables.map fun t => (t, deps.countP fun d => d.after = t)

namespace Counts

/-- One demand of a table fewer. -/
def meet (counts : Counts) (t : TableName) : Counts :=
  counts.map fun (u, n) => (u, if u = t then n - 1 else n)

/-- The tables that wait for nothing. -/
def ready (counts : Counts) : List TableName := (counts.filter fun c => c.2 = 0).map Prod.fst

/-- The tables that still wait. -/
def stuck (counts : Counts) : List TableName := (counts.filter fun c => 0 < c.2).map Prod.fst

/-- How many tables still wait. -/
def waiting (counts : Counts) : Nat := counts.countP fun c => 0 < c.2

theorem waiting_meet_le (counts : Counts) (t : TableName) :
    (counts.meet t).waiting ≤ counts.waiting := by
  induction counts with
  | nil => exact Nat.le_refl 0
  | cons c counts ih =>
    obtain ⟨u, n⟩ := c
    simp only [meet, waiting, List.map_cons, List.countP_cons] at ih ⊢
    by_cases h : u = t
    · simp only [h, if_true, decide_eq_true_eq]
      split <;> split <;> omega
    · simp only [h, if_false]
      omega

/-- A table whose last demand is met no longer waits. -/
theorem waiting_meet_lt {counts : Counts} {t : TableName} (h : counts.lookup t = some 1) :
    (counts.meet t).waiting < counts.waiting := by
  induction counts with
  | nil => simp at h
  | cons c counts ih =>
    obtain ⟨u, n⟩ := c
    have rest := waiting_meet_le counts t
    simp only [meet, waiting, List.map_cons, List.countP_cons] at ih rest ⊢
    by_cases same : t = u
    · subst same
      rw [List.lookup_cons_self] at h
      cases h
      simp only [if_true, Nat.sub_self, Nat.lt_irrefl, Nat.one_pos, decide_false, decide_true]
      simp only [Bool.false_eq_true, if_false, Nat.add_zero]
      exact Nat.lt_succ_of_le rest
    · rw [List.lookup_cons, beq_eq_false_iff_ne.2 same] at h
      have := ih h
      simp only [Ne.symm same, if_false]
      omega

end Counts

/-- A demand for the table `t`, which has been taken, is met. The table that made it is queued if
this was its last one. -/
def serve (t : TableName) (s : List TableName × Counts) (d : Dependency) :
    List TableName × Counts :=
  if d.before = t then
    match s.2.lookup d.after with
    | some (n + 1) => (if n = 0 then s.1 ++ [d.after] else s.1, s.2.meet d.after)
    | _ => s
  else s

theorem measure_serve_le (t : TableName) (s : List TableName × Counts) (d : Dependency) :
    (serve t s d).1.length + (serve t s d).2.waiting ≤ s.1.length + s.2.waiting := by
  unfold serve
  split
  · split
    next n h =>
      have any := Counts.waiting_meet_le s.2 d.after
      split
      next last =>
        have fewer := Counts.waiting_meet_lt (last ▸ h)
        simp only [List.length_append, List.length_singleton]
        omega
      · exact Nat.add_le_add_left any _
    · exact Nat.le_refl _
  · exact Nat.le_refl _

/-- All demands for the table `t` are met, in the order in which they were made. -/
def serveAll (t : TableName) (deps : List Dependency) (s : List TableName × Counts) :
    List TableName × Counts :=
  deps.foldl (serve t) s

theorem measure_serveAll_le (t : TableName) (deps : List Dependency)
    (s : List TableName × Counts) :
    (serveAll t deps s).1.length + (serveAll t deps s).2.waiting ≤ s.1.length + s.2.waiting := by
  induction deps generalizing s with
  | nil => exact Nat.le_refl _
  | cons d deps ih => exact Nat.le_trans (ih _) (measure_serve_le t s d)

/-- Take tables from the queue until it is empty. The result is the tables taken, in order, and the
demands that are left. -/
def drain (deps : List Dependency) (order queue : List TableName) (counts : Counts) :
    List TableName × Counts :=
  match queue with
  | [] => (order, counts)
  | t :: queue =>
    let served := serveAll t deps (queue, counts)
    drain deps (order ++ [t]) served.1 served.2
termination_by queue.length + counts.waiting
decreasing_by
  exact Nat.lt_of_le_of_lt (measure_serveAll_le t deps (queue, counts)) (by simp)

/-- The tables that can be ordered, in order, and the demands that are left. -/
def sort (deps : List Dependency) (tables : List TableName) : List TableName × Counts :=
  let counts := count deps tables
  drain deps [] counts.ready counts

end Dependency

/-- The tables in an order in which every table that a key references precedes those that reference
it. `tables` are in table order, each once. -/
def dependencyOrder (tables : List TableName) (keys : List ForeignKey) :
    Except Error (List TableName) :=
  let (order, counts) := Dependency.sort (Dependency.ofKeys tables keys) tables
  if order.length < tables.length then .error (.graph (.cycle counts.stuck)) else .ok order

end JoinSheet
