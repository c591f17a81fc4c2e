import JoinSheet.Proofs.Sheet.Reshape

/-!
# Default names of columns

A column that is added without a name gets the default one for its place. These names differ from
place to place, but a column keeps its name when one before it is removed, and may be given such a
name by hand. The name of the next place can be taken then, and no column is added. This does not
happen as long as only the last column is ever removed and no column is given the default name of a
later place.

## Main definitions

* `Sheet.InOrder` — no column has the default name of a later place.
* `Sheet.ReachableInOrder` — the sheets that commands lead to which keep to that.

## Main statements

* `defaultColumnName_injective` — default names differ.
* `Sheet.run_addColumn_default` — when a column can be added without a name, and what is added.
-/

namespace JoinSheet

/-! ## The names -/

/-- The letter that a default name ends with. -/
theorem toNat_lastLetter (index : Nat) :
    (Char.ofNat ('A'.toNat + index % 26)).toNat = 'A'.toNat + index % 26 := by
  have letters : ∀ k < 26, (Char.ofNat ('A'.toNat + k)).toNat = 'A'.toNat + k := by decide
  exact letters _ (Nat.mod_lt index (by decide))

theorem defaultColumnName_of_lt {index : Nat} (h : index < 26) :
    defaultColumnName index = [Char.ofNat ('A'.toNat + index % 26)] := by
  rw [defaultColumnName, dif_pos h]

theorem defaultColumnName_of_le {index : Nat} (h : 26 ≤ index) :
    defaultColumnName index =
      defaultColumnName (index / 26 - 1) ++ [Char.ofNat ('A'.toNat + index % 26)] := by
  rw [defaultColumnName, dif_neg (Nat.not_lt.2 h)]

theorem defaultColumnName_ne_nil (index : Nat) : defaultColumnName index ≠ [] := by
  rw [defaultColumnName]
  split <;> simp

/-- A default name consists of capital letters. -/
theorem isUpper_of_mem_defaultColumnName {index : Nat} {c : Char}
    (h : c ∈ defaultColumnName index) : c.isUpper := by
  have letters : ∀ k < 26, (Char.ofNat ('A'.toNat + k)).isUpper := by decide
  induction index using Nat.strongRecOn with
  | ind index ih =>
    have last (mem : c ∈ [Char.ofNat ('A'.toNat + index % 26)]) : c.isUpper :=
      List.mem_singleton.1 mem ▸ letters _ (Nat.mod_lt index (by decide))
    obtain small | large := Nat.lt_or_ge index 26
    · exact last (defaultColumnName_of_lt small ▸ h)
    · rw [defaultColumnName_of_le large, List.mem_append] at h
      obtain before | mem := h
      · exact ih (index / 26 - 1) (by omega) before
      · exact last mem

/-- The last letter of a default name and what stands before it determine the place. -/
theorem defaultColumnName_injective : Function.Injective defaultColumnName := by
  have sameLetter {i j : Nat} (same : Char.ofNat ('A'.toNat + i % 26) =
      Char.ofNat ('A'.toNat + j % 26)) : i % 26 = j % 26 := by
    have codes := congrArg Char.toNat same
    rw [toNat_lastLetter, toNat_lastLetter] at codes
    exact Nat.add_left_cancel codes
  intro i
  induction i using Nat.strongRecOn with
  | ind i ih =>
    intro j same
    obtain hi | hi := Nat.lt_or_ge i 26 <;> obtain hj | hj := Nat.lt_or_ge j 26
    · rw [defaultColumnName_of_lt hi, defaultColumnName_of_lt hj] at same
      have letters := sameLetter (List.singleton_inj.1 same)
      omega
    · rw [defaultColumnName_of_lt hi, defaultColumnName_of_le hj, List.singleton_eq_append_iff]
        at same
      simp [defaultColumnName_ne_nil] at same
    · rw [defaultColumnName_of_le hi, defaultColumnName_of_lt hj, List.append_eq_singleton_iff]
        at same
      simp [defaultColumnName_ne_nil] at same
    · rw [defaultColumnName_of_le hi, defaultColumnName_of_le hj] at same
      obtain ⟨before, last⟩ := List.append_inj' same rfl
      have letters := sameLetter (List.singleton_inj.1 last)
      have fronts := ih (i / 26 - 1) (by omega) before
      omega

/-! ## Names in order -/

/-- The change gives no column the default name of a later place, and removes no column but the last
one. -/
def ColumnChange.IsOrderly (s : Sheet) : ColumnChange → Prop
  | add (some name) => ∀ k, name = defaultColumnName k → k ≤ s.extras.length
  | rename i name => ∀ k, name = defaultColumnName k → k ≤ i
  | remove i => s.extras.length ≤ i + 1
  | add none | write _ | reevaluate | keep => True

namespace Sheet

variable {s s' : Sheet} {change : ColumnChange}

/-- No extra column has the default name of a later place. -/
def InOrder (s : Sheet) : Prop :=
  ∀ i k, (s.extras.map ExtraColumn.name)[i]? = some (defaultColumnName k) → k ≤ i

theorem Reshapes.inOrder (h : s.Reshapes s' change) (orderly : change.IsOrderly s)
    (before : s.InOrder) : s'.InOrder := by
  intro i k there
  rw [h.names] at there
  cases change with
  | add name =>
    simp only [ColumnChange.names, List.getElem?_append, List.length_map] at there
    split at there
    · exact before i k there
    next beyond =>
      rw [List.getElem?_singleton] at there
      split at there
      next =>
        have last : s.extras.length = i := by omega
        cases name with
        | none => exact (defaultColumnName_injective (Option.some.inj there)) ▸ last.le
        | some name => exact (orderly k (Option.some.inj there)).trans last.le
      next => cases there
  | rename j name =>
    simp only [ColumnChange.names, List.getElem?_set] at there
    split at there
    next own =>
      subst own
      split at there
      · exact orderly k (Option.some.inj there)
      · cases there
    next => exact before i k there
  | remove j =>
    simp only [ColumnChange.names, List.getElem?_eraseIdx] at there
    split at there
    next => exact before i k there
    next =>
      -- Nothing stands behind the column that is removed.
      have within := (List.getElem?_eq_some_iff.1 there).1
      simp only [ColumnChange.IsOrderly, List.length_map] at orderly within
      omega
  | write | reevaluate | keep => exact before i k there

/-- On a sheet whose names are in order, the default name for the next place is not in use. -/
theorem InOrder.unused (h : s.InOrder) : s.Unused (defaultColumnName s.extras.length) := by
  intro c mem named
  obtain ⟨i, within, rfl⟩ := List.getElem_of_mem mem
  have late := h i s.extras.length (by simp [within, named])
  omega

/-- The sheets that start with one table, and what commands lead to that keep names in order. -/
inductive ReachableInOrder : Sheet → Prop where
  | start (base : TableName) (settings : Settings) :
      ReachableInOrder (Sheet.ofTable base settings)
  | command {σ : Type} {s : Sheet} (before : ReachableInOrder s) (catalog : Catalog)
      (server : Server σ) (d : σ) (connection : Option Dialect) (command : Command)
      (orderly : command.change.IsOrderly s) :
      ReachableInOrder (Workbook.run server connection command ⟨s, catalog⟩ d).1.2.sheet

theorem ReachableInOrder.reachable (h : s.ReachableInOrder) : s.Reachable := by
  induction h with
  | start base settings => exact .start base settings
  | command _ catalog server d connection command _ ih =>
    exact ih.command catalog server d connection command

theorem ReachableInOrder.inOrder (h : s.ReachableInOrder) : s.InOrder := by
  induction h with
  | start base settings => intro i k there; simp [Sheet.ofTable] at there
  | @command σ s _ catalog server d connection command orderly ih =>
    obtain kept | becomes :=
      Workbook.sheet_run_eq_or_becomes server connection command ⟨s, catalog⟩ d
    · exact kept.symm ▸ ih
    · exact becomes.reshapes.inOrder orderly ih

/-! ## Adding a column without a name -/

theorem run_addColumn {σ : Type} (server : Server σ) (connection : Option Dialect)
    (name : Option Text) (catalog : Catalog) (d : σ) :
    Workbook.run server connection (.addColumn name) ⟨s, catalog⟩ d =
      (match s.addColumn name with
        | .ok s' => (.ok s.extras.length, ⟨s', catalog⟩)
        | .error e => (.error e, ⟨s, catalog⟩), d) := by
  have performed : Workbook.run server connection (.addColumn name) ⟨s, catalog⟩ d =
      (((liftM (s.addColumn name) : WorkbookAction Sheet) >>= fun s' => do
        Workbook.setSheet s'
        return s.extras.length).run.run ⟨s, catalog⟩).run server d := rfl
  rw [performed]
  cases s.addColumn name <;> rfl

/-- A column without a name is added exactly when the default name for its place is not in use. It
is the last one then and has that name, and nothing else changes. Otherwise nothing is added. As
long as commands keep the names in order, the name is not in use. -/
theorem run_addColumn_default (s : Sheet) :
    (∀ (σ : Type) (server : Server σ) (d : σ) (connection : Option Dialect) (catalog : Catalog),
      (s.Unused (defaultColumnName s.extras.length) →
        Workbook.run server connection (.addColumn none) ⟨s, catalog⟩ d =
          ((.ok s.extras.length, ⟨{ s with extras := s.extras ++
            [⟨defaultColumnName s.extras.length,
              List.replicate (max s.settings.extraRows s.rows.length) {}⟩] }, catalog⟩), d)) ∧
      (¬s.Unused (defaultColumnName s.extras.length) →
        Workbook.run server connection (.addColumn none) ⟨s, catalog⟩ d =
          ((.error (.resolve (.columnExists (defaultColumnName s.extras.length))), ⟨s, catalog⟩),
            d))) ∧
    (s.ReachableInOrder → s.Reachable ∧ s.Unused (defaultColumnName s.extras.length)) := by
  have checked := s.checkUnused_eq (defaultColumnName s.extras.length)
  rw [if_neg (defaultColumnName_ne_nil s.extras.length)] at checked
  refine ⟨fun σ server d connection catalog => ⟨fun unused => ?_, fun taken => ?_⟩,
    fun h => ⟨h.reachable, h.inOrder.unused⟩⟩
  · rw [if_pos unused] at checked
    rw [run_addColumn, addColumn, Option.getD_none, checked]
    rfl
  · rw [if_neg taken] at checked
    rw [run_addColumn, addColumn, Option.getD_none, checked]
    rfl

/-- Two columns are added without a name, the second one is renamed, and a third one is added. -/
theorem run_addColumn_default_renamed :
    let blank := Sheet.ofTable ⟨"s", "t"⟩ { extraRows := 1 }
    let two := blank.afterAlone [.addColumn none, .addColumn none]
    let renamed := two.afterAlone [.renameColumn 1 "A1"]
    renamed.ReachableInOrder ∧ renamed.Unused "C" ∧
      (renamed.afterAlone [.addColumn none]).extras =
        [⟨"A", [{}]⟩, ⟨"A1", [{}]⟩, ⟨"C", [{}]⟩] := by
  intro blank two renamed
  have started : blank.ReachableInOrder := .start _ _
  have added : two.ReachableInOrder :=
    (started.command _ _ _ _ (.addColumn none) trivial).command _ _ _ _ (.addColumn none) trivial
  have other (k : Nat) : ("A1" : Text) ≠ defaultColumnName k := by
    intro same
    have upper : ('1' : Char).isUpper :=
      isUpper_of_mem_defaultColumnName (same ▸ (by decide : '1' ∈ ("A1" : Text)))
    simp at upper
  have reached : renamed.ReachableInOrder :=
    added.command _ _ _ _ (.renameColumn 1 "A1") fun k same => absurd same (other k)
  obtain ⟨-, unused⟩ := renamed.run_addColumn_default.2 reached
  have next : defaultColumnName renamed.extras.length = "C" := by decide +kernel
  exact ⟨reached, next ▸ unused, by decide +kernel⟩

/-- Two columns are added without a name, and the first one is removed. The other one still has the
default name for the second place, so no column can be added without a name. -/
theorem addColumn_default_taken :
    let one := (Sheet.ofTable ⟨"s", "t"⟩ { extraRows := 1 }).afterAlone
      [.addColumn none, .addColumn none, .deleteColumn 0]
    one.Reachable ∧ one.extras = [⟨"B", [{}]⟩] ∧
      ((Workbook.run Server.absent none (.addColumn none) ⟨one, {}⟩ ()).1.1 : Except Error Nat) =
        .error (.resolve (.columnExists "B")) := by
  intro one
  have taken : one.checkUnused (defaultColumnName one.extras.length) =
      .error (.resolve (.columnExists "B")) := by decide +kernel
  refine ⟨(Reachable.start _ _).afterAlone _, by decide +kernel, ?_⟩
  rw [run_addColumn, addColumn, Option.getD_none, taken]
  rfl

end Sheet

end JoinSheet
