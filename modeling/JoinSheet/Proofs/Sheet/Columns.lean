import JoinSheet.Proofs.Sheet.Reshape

/-!
# Changes of extra columns

A command on extra columns adds one at the end, puts another one in the place of one, or removes
one. A column that is added or renamed is refused a name that is taken, and no other command changes
names. So no two extra columns of a sheet have the same name.

## Main definitions

* `Command.touched` — the names of the columns that a command on extra columns changes.
* `Sheet.Edits` — what such a command does.
* `Sheet.Distinct` — no two extra columns have the same name.

## Main statements

* `Sheet.Becomes.edits` — commands on extra columns do no more.
* `Sheet.Reachable.distinct` — the extra columns of reachable sheets have distinct names.
-/

namespace JoinSheet

/-- The names that the extra columns which a command on extra columns adds, changes or removes have
before and after it. -/
def Command.touched (s : Sheet) : Command → Option (List Text)
  | addColumn name => some [name.getD (defaultColumnName s.extras.length)]
  | renameColumn i name => some ((s.extras[i]?.map ExtraColumn.name).toList ++ [name])
  | deleteColumn i | setCell i _ _ | fillDown i _ _ =>
    some (s.extras[i]?.map ExtraColumn.name).toList
  | _ => none

namespace Sheet

variable {s s' : Sheet} {connection : Option Dialect} {command : Command} {names : List Text}

/-- No two extra columns have the same name. -/
def Distinct (s : Sheet) : Prop := (s.extras.map ExtraColumn.name).Nodup

theorem Distinct.eq_of_name {c c' : ExtraColumn} (distinct : s.Distinct) (mem : c ∈ s.extras)
    (mem' : c' ∈ s.extras) (same : c'.name = c.name) : c' = c :=
  List.inj_on_of_nodup_map distinct mem' mem same

/-- Extra columns of distinct names are found by their names. -/
theorem Distinct.exists_findIdx? {c : ExtraColumn} (distinct : s.Distinct) (mem : c ∈ s.extras) :
    ∃ i, s.extras.findIdx? (fun d => d.name == c.name) = some i ∧ s.extras[i]? = some c := by
  cases found : s.extras.findIdx? fun d => d.name == c.name with
  | none =>
    have missing := List.findIdx?_eq_none_iff.1 found c mem
    simp at missing
  | some i =>
    obtain ⟨within, named, -⟩ := List.findIdx?_eq_some_iff_getElem.1 found
    have own := distinct.eq_of_name mem (List.getElem_mem within) (beq_iff_eq.1 named)
    exact ⟨i, rfl, List.getElem?_eq_some_iff.2 ⟨within, own⟩⟩

/-! ## Edits -/

/-- The sheet `s'` is made of `s` by adding an extra column, putting one in the place of another, or
removing one. What is added or removed has a name in `names`, and only a name not in use is new. -/
inductive Edits (s : Sheet) (names : List Text) : Sheet → Prop where
  | add {c : ExtraColumn} (unused : s.Unused c.name) (mem : c.name ∈ names) :
    Edits s names { s with extras := s.extras ++ [c] }
  | put {i : Nat} {c c' : ExtraColumn} (there : s.extras[i]? = some c)
    (fresh : c'.name = c.name ∨ s.Unused c'.name) (mem : c.name ∈ names) (mem' : c'.name ∈ names) :
    Edits s names (s.setExtra i c')
  | remove {i : Nat} {c : ExtraColumn} (there : s.extras[i]? = some c) (mem : c.name ∈ names) :
    Edits s names { s with extras := s.extras.eraseIdx i }

namespace Edits

theorem sameTables (h : s.Edits names s') : SameTables s s' := by
  cases h <;> exact ⟨rfl, rfl⟩

theorem settings (h : s.Edits names s') : s'.settings = s.settings := by
  cases h <;> rfl

/-- Columns of other names stay. -/
theorem mem_iff {c : ExtraColumn} (h : s.Edits names s') (other : c.name ∉ names) :
    c ∈ s'.extras ↔ c ∈ s.extras := by
  have ne {d : ExtraColumn} (mem : d.name ∈ names) : c ≠ d := fun same => other (same ▸ mem)
  cases h with
  | @add d unused mem => simp [ne mem]
  | @put i d d' there fresh mem mem' =>
    obtain ⟨within, rfl⟩ := List.getElem?_eq_some_iff.1 there
    simp only [setExtra, List.mem_iff_getElem?, List.getElem?_set]
    refine exists_congr fun j => ?_
    by_cases own : i = j
    · subst own
      simp [within, Ne.symm (ne mem), Ne.symm (ne mem')]
    · simp [own]
  | @remove i d there mem =>
    rw [List.mem_eraseIdx_iff_getElem?, List.mem_iff_getElem?]
    refine exists_congr fun j => ⟨And.right, fun here => ⟨?_, here⟩⟩
    rintro rfl
    exact ne mem (Option.some.inj (here.symm.trans there))

end Edits

/-- Commands on extra columns add, replace or remove a column. -/
theorem Becomes.edits (h : s.Becomes connection command s')
    (touched : command.touched s = some names) : s.Edits names s' := by
  have named {i : Nat} {c : ExtraColumn} (there : s.extras[i]? = some c) :
      c.name ∈ (s.extras[i]?.map ExtraColumn.name).toList := by simp [there]
  have reshaped := h.reshapes
  cases command with
  | addColumn name =>
    cases touched
    cases reshaped with
    | add given _ unused => exact .add unused (List.mem_singleton.2 given)
  | renameColumn i name =>
    cases touched
    cases reshaped with
    | rename there fresh =>
      exact .put there (fresh.imp_right And.right) (List.mem_append_left [name] (named there))
        (by simp)
  | deleteColumn i =>
    cases touched
    cases reshaped with
    | remove there => exact .remove there (named there)
  | setCell i | fillDown i =>
    cases touched
    cases reshaped with
    | write there same => exact .put there (.inl same) (named there) (same ▸ named there)
  | _ => cases touched

/-! ## Names -/

/-- Only unused names are given. -/
theorem Reshapes.distinct {change : ColumnChange} (h : s.Reshapes s' change)
    (distinct : s.Distinct) : s'.Distinct := by
  unfold Distinct at *
  rw [h.names]
  cases h with
  | @add name c named _ unused =>
    rw [ColumnChange.names, ← named, List.nodup_append]
    refine ⟨distinct, List.nodup_singleton _, ?_⟩
    rintro _ old _ new rfl
    rw [List.mem_singleton.1 new] at old
    exact unused.not_mem old
  | @rename i name c there fresh =>
    obtain rfl | ⟨-, unused⟩ := fresh
    · obtain ⟨within, rfl⟩ := List.getElem?_eq_some_iff.1 there
      rw [ColumnChange.names, ← List.map_set, List.set_getElem_self]
      exact distinct
    · exact distinct.set unused.not_mem
  | @remove i => exact distinct.sublist (List.eraseIdx_sublist _ i)
  | write | reevaluate | keep => exact distinct

/-- Every command keeps names distinct. -/
theorem Becomes.distinct (h : s.Becomes connection command s') (distinct : s.Distinct) :
    s'.Distinct :=
  h.reshapes.distinct distinct

/-- The extra columns of a reachable sheet have distinct names. -/
theorem Reachable.distinct (h : s.Reachable) : s.Distinct :=
  h.of_becomes (fun _ _ => List.nodup_nil) fun _ _ _ _ distinct becomes => becomes.distinct distinct

end Sheet

end JoinSheet
