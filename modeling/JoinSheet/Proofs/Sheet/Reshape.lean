import JoinSheet.Proofs.Sheet.HandWritten
import JoinSheet.Proofs.Sheet.Loading
import JoinSheet.Proofs.Sheet.Reachable
import JoinSheet.Proofs.Sheet.Values
import Mathlib.Data.List.InsertIdx

/-!
# What commands do to extra columns

A command adds an extra column at the end, renames one, removes one, writes cells of one, evaluates
all formulas again, or leaves the extra columns as they are. A column that is added or renamed is
refused an empty name and one that is taken.

## Main definitions

* `ColumnChange`, `Command.change` — what a command does to the extra columns.
* `Sheet.Reshapes` — the extra columns before and after it.
* `ColumnChange.names` — their names after it.

## Main statements

* `Sheet.Becomes.reshapes` — a command does to the extra columns what it is for.
* `Sheet.Reshapes.names` — what it does to their names.
-/

namespace JoinSheet

/-- What can be done to the extra columns. -/
inductive ColumnChange where
  | add (name : Option Text)
  | rename (i : Nat) (name : Text)
  | remove (i : Nat)
  /-- Cells of a column are written. -/
  | write (i : Nat)
  /-- Every formula is evaluated again. -/
  | reevaluate
  | keep
  deriving DecidableEq

/-- What a command does to the extra columns. -/
def Command.change : Command → ColumnChange
  | addColumn name => .add name
  | renameColumn i name => .rename i name
  | deleteColumn i => .remove i
  | setCell i .. | fillDown i .. => .write i
  | loadRows .. | reload | recompute => .reevaluate
  | _ => .keep

theorem Command.change_of_loads {command : Command} (h : command.loads = true) :
    command.change = .reevaluate := by
  cases command <;> first | rfl | cases h

/-- The names of the extra columns after a change. -/
def ColumnChange.names (s : Sheet) : ColumnChange → List Text
  | add name => s.extras.map ExtraColumn.name ++ [name.getD (defaultColumnName s.extras.length)]
  | rename i name => (s.extras.map ExtraColumn.name).set i name
  | remove i => (s.extras.map ExtraColumn.name).eraseIdx i
  | write _ | reevaluate | keep => s.extras.map ExtraColumn.name

namespace ExtraColumn

/-- The column with at least `n` cells. -/
def pad (n : Nat) (c : ExtraColumn) : ExtraColumn := { c with cells := padTo n {} c.cells }

theorem length_replaceFrom {c : ExtraColumn} {row : Nat} {cells : List FormulaCell}
    (h : cells.length = max c.cells.length (row + 1) - row) :
    (c.replaceFrom row cells).cells.length = max c.cells.length (row + 1) := by
  simp only [replaceFrom, List.length_append, length_padTo, List.length_take, h]
  omega

end ExtraColumn

namespace Sheet

variable {s s' : Sheet} {connection : Option Dialect} {command : Command}

/-! ## Unused names -/

/-- No extra column of the sheet has the name. -/
def Unused (s : Sheet) (name : Text) : Prop := ∀ c ∈ s.extras, c.name ≠ name

theorem Unused.not_mem {name : Text} (h : s.Unused name) :
    name ∉ s.extras.map ExtraColumn.name := by
  intro mem
  obtain ⟨c, hc, rfl⟩ := List.mem_map.1 mem
  exact h c hc rfl

instance (s : Sheet) (name : Text) : Decidable (s.Unused name) :=
  inferInstanceAs (Decidable (∀ c ∈ s.extras, c.name ≠ name))

theorem checkUnused_eq (s : Sheet) (name : Text) :
    s.checkUnused name =
      if name = [] then .error (.resolve .emptyColumnName)
      else if s.Unused name then .ok () else .error (.resolve (.columnExists name)) := by
  have taken : s.extras.any (·.name == name) = true ↔ ¬s.Unused name := by simp [Unused]
  simp only [checkUnused, taken, ite_not]

theorem checkUnused_eq_ok {name : Text} :
    s.checkUnused name = .ok () ↔ name ≠ [] ∧ s.Unused name := by
  rw [checkUnused_eq]
  split
  next empty => simp [empty]
  next given =>
    split
    next unused => simp [given, unused]
    next taken => simp [taken]

/-! ## Before and after a command -/

/-- The sheet `s'` is made of `s` by a change of extra columns. Evaluations of everything may come
with other rows, and other commands may forget the rows. -/
inductive Reshapes (s : Sheet) : Sheet → ColumnChange → Prop where
  | add {name : Option Text} {c : ExtraColumn}
      (named : c.name = name.getD (defaultColumnName s.extras.length)) (nonempty : c.name ≠ [])
      (unused : s.Unused c.name) (high : s.rows.length ≤ c.cells.length) :
      Reshapes s { s with extras := s.extras ++ [c] } (.add name)
  | rename {i : Nat} {name : Text} {c : ExtraColumn} (there : s.extras[i]? = some c)
      (fresh : name = c.name ∨ name ≠ [] ∧ s.Unused name) :
      Reshapes s (s.setExtra i { c with name }) (.rename i name)
  | remove {i : Nat} {c : ExtraColumn} (there : s.extras[i]? = some c) :
      Reshapes s { s with extras := s.extras.eraseIdx i } (.remove i)
  | write {i : Nat} {c c' : ExtraColumn} (there : s.extras[i]? = some c) (name : c'.name = c.name)
      (higher : c.cells.length ≤ c'.cells.length) : Reshapes s (s.setExtra i c') (.write i)
  | reevaluate {s' : Sheet} (n : Nat) (extras : s'.extras.map ExtraColumn.unevaluated =
        s.extras.map fun c => (c.pad n).unevaluated)
      (rows : s'.rows = s.rows ∨ s'.rows.length ≤ n) : Reshapes s s' .reevaluate
  | keep {s' : Sheet} (extras : s'.extras = s.extras) (rows : s'.rows = s.rows ∨ s'.rows = []) :
      Reshapes s s' .keep

theorem SameTables.rows (h : SameTables s s') : s'.rows = s.rows := by
  rw [Sheet.rows, Sheet.rows, h.2]

/-- A command does to the extra columns what it is for. -/
theorem Becomes.reshapes (h : s.Becomes connection command s') : s.Reshapes s' command.change := by
  cases h with
  | setTable chosen =>
    obtain ⟨t, -, chosen⟩ := Except.bind_eq_ok.1 chosen
    cases chosen
    split
    · exact .keep rfl (.inl rfl)
    · exact .keep rfl (.inr rfl)
  | setJoin chosen =>
    obtain rfl | ⟨_, path, -, rfl⟩ := eq_or_setPath_of_setJoin chosen
    · exact .keep rfl (.inl rfl)
    · exact .keep rfl (.inr rfl)
  | truncateJoins n =>
    unfold Sheet.truncateJoins
    split
    · exact .keep rfl (.inl rfl)
    · exact .keep rfl (.inr rfl)
  | setPreference => exact .keep rfl (.inl rfl)
  | load loads _ loaded =>
    obtain ⟨page, rest, evaluated⟩ := exists_page_of_loadRows loaded
    have same := evaluated.of_yields (yields_recompute_unevaluated _ _)
    have rows : s'.rows = page.rows := (sameTables_of_unevaluated same).rows
    rw [Command.change_of_loads loads]
    refine .reevaluate page.rows.length ((congrArg Sheet.extras same).trans ?_)
      (.inr (congrArg List.length rows).le)
    simp [unevaluated, setPage, ExtraColumn.pad, Function.comp_def]
  | recompute done =>
    have same := done.of_yields (yields_recompute_unevaluated s _)
    refine .reevaluate 0 ((congrArg Sheet.extras same).trans ?_)
      (.inl (sameTables_of_unevaluated same).rows)
    exact List.map_congr_left fun c _ => by simp [ExtraColumn.pad, padTo]
  | addColumn added =>
    obtain ⟨⟨⟩, free, added⟩ := Except.bind_eq_ok.1 added
    obtain ⟨nonempty, unused⟩ := checkUnused_eq_ok.1 free
    cases added
    refine .add rfl nonempty unused ?_
    rw [List.length_replicate]
    exact Nat.le_max_right ..
  | renameColumn renamed =>
    obtain ⟨c, there, renamed⟩ := Except.bind_eq_ok.1 renamed
    have there := extraAt_eq_ok.1 there
    split at renamed
    next same =>
      cases renamed
      subst same
      have kept := Reshapes.rename there (.inl rfl)
      rwa [setExtra_self there] at kept
    · obtain ⟨⟨⟩, free, renamed⟩ := Except.bind_eq_ok.1 renamed
      cases renamed
      exact .rename there (.inr (checkUnused_eq_ok.1 free))
  | deleteColumn deleted =>
    obtain ⟨c, there, deleted⟩ := Except.bind_eq_ok.1 deleted
    cases deleted
    exact .remove (extraAt_eq_ok.1 there)
  | setCell written =>
    obtain ⟨c, there, written⟩ := Action.follows_liftM_bind.1 written
    obtain ⟨cell, _, _, -, done, -⟩ := Action.follows_bind.1 written
    obtain ⟨-, done⟩ := Action.follows_pure.1 done
    cases done
    refine .write (extraAt_eq_ok.1 there) rfl ?_
    rw [ExtraColumn.length_setCell]
    exact Nat.le_max_right ..
  | fillDown filled =>
    obtain ⟨c, tokens, cells, there, -, each, count, rfl⟩ := follows_fillDown.1 filled
    have length := (Action.forall₂_of_follows_mapM each).length_eq
    rw [List.length_range, count] at length
    refine .write there rfl ?_
    rw [ExtraColumn.length_replaceFrom length.symm]
    exact Nat.le_max_left ..

theorem Reshapes.names {change : ColumnChange} (h : s.Reshapes s' change) :
    s'.extras.map ExtraColumn.name = change.names s := by
  cases h with
  | add named => simp [ColumnChange.names, named]
  | rename => simp [ColumnChange.names, setExtra, List.map_set]
  | remove => simp [ColumnChange.names, List.eraseIdx_map]
  | @write i c c' there name =>
    obtain ⟨within, rfl⟩ := List.getElem?_eq_some_iff.1 there
    rw [setExtra, List.map_set, name, ← List.map_set, List.set_getElem_self]
    rfl
  | reevaluate n extras =>
    have names := congrArg (List.map ExtraColumn.name) extras
    simp only [List.map_map] at names
    exact names
  | keep extras => rw [extras]; rfl

end Sheet

end JoinSheet
