import JoinSheet.Proofs.Sql.Fragment
import JoinSheet.Sheet.Resolve

/-!
# What names denote

A name without a point denotes the first column of the page that has it, and an extra column only if
no column of the page has it. A name with points denotes a column of the page, if anything.

## Main statements

* `Sheet.column_of_resolveColumn` — a database column that a name denotes has that name.
* `Sheet.exists_resolveColumn_of_mem`, `Sheet.resolveColumn_of_forall_ne` — what a plain name
  denotes.
* `Sheet.resolveColumn_ne_extra` — a name with points denotes no extra column.
-/

namespace JoinSheet

/-- A text with one part is that part. -/
theorem Text.eq_of_split_eq_singleton {sep : Char} {t part : Text} (h : t.split sep = [part]) :
    t = part := by
  have whole := joined_split sep t
  rw [h] at whole
  exact whole.symm.trans (by simp [joined, List.intercalate])

theorem Text.split_ne_singleton {sep : Char} {t : Text} (h : sep ∈ t) (part : Text) :
    t.split sep ≠ [part] := by
  intro same
  have mem : part ∈ t.split sep := same ▸ List.mem_singleton_self part
  rw [eq_of_split_eq_singleton same] at h
  exact (mem_of_mem_split mem h).2 rfl

section FirstWithIndex

variable {α : Type} {p : α → Bool} {l : List α} {i : Nat} {a b : α}

theorem of_firstWithIndex?_eq_some (h : firstWithIndex? p l = some (i, a)) :
    l[i]? = some a ∧ p a := by
  obtain ⟨j, found, h⟩ := Option.bind_eq_some_iff.1 h
  obtain ⟨b, there, h⟩ := Option.map_eq_some_iff.1 h
  cases h
  obtain ⟨_, holds, -⟩ := List.findIdx?_eq_some_iff_getElem.1 found
  obtain ⟨_, rfl⟩ := List.getElem?_eq_some_iff.1 there
  exact ⟨there, holds⟩

theorem firstWithIndex?_eq_none : firstWithIndex? p l = none ↔ ∀ a ∈ l, p a = false := by
  rw [← List.findIdx?_eq_none_iff, firstWithIndex?, Option.bind_eq_none_iff]
  constructor
  · intro h
    cases found : l.findIdx? p with
    | none => rfl
    | some i =>
      obtain ⟨bound, -⟩ := List.findIdx?_eq_some_iff_getElem.1 found
      simpa [bound] using h i found
  · intro h i found
    cases h.symm.trans found

/-- The first of some elements in order comes before the others in that order. -/
theorem rel_of_firstWithIndex?_eq_some {R : α → α → Prop} (refl : ∀ a, R a a)
    (ordered : l.Pairwise R) (h : firstWithIndex? p l = some (i, a)) (mem : b ∈ l) (hb : p b) :
    R a b := by
  obtain ⟨j, found, h⟩ := Option.bind_eq_some_iff.1 h
  obtain ⟨_, there, h⟩ := Option.map_eq_some_iff.1 h
  cases h
  obtain ⟨_, -, before⟩ := List.findIdx?_eq_some_iff_getElem.1 found
  obtain ⟨_, rfl⟩ := List.getElem?_eq_some_iff.1 there
  obtain ⟨k, hk, rfl⟩ := List.getElem_of_mem mem
  obtain later | rfl | earlier := Nat.lt_trichotomy i k
  · exact List.pairwise_iff_getElem.1 ordered _ _ _ _ later
  · exact refl _
  · exact absurd hb (before k earlier)

end FirstWithIndex

namespace Sheet

variable {s : Sheet} {name : Text} {i : Nat} {c : SheetColumn}

/-- A name that denotes a database column is the name of a column of the page, with or without its
table. -/
theorem column_of_resolveColumn (h : s.resolveColumn name = .ok (.database i c)) :
    s.columns[i]? = some c ∧ (c.column.name = name ∨ c.qualified = name) := by
  have whole := Text.joined_split '.' name
  unfold resolveColumn at h
  split at h
  next plain parts =>
    rw [parts] at whole
    unfold resolvePlain at h
    split at h
    next found =>
      cases h
      obtain ⟨there, named⟩ := of_firstWithIndex?_eq_some found
      exact ⟨there, .inl ((beq_iff_eq.1 named).trans (by simpa [Text.joined] using whole))⟩
    next => split at h <;> cases h
  next schema table column parts =>
    rw [parts] at whole
    unfold resolveQualified at h
    split at h
    next => cases h
    next =>
      split at h
      next found =>
        cases h
        obtain ⟨there, named⟩ := of_firstWithIndex?_eq_some found
        rw [Bool.and_eq_true, beq_iff_eq, beq_iff_eq] at named
        refine ⟨there, .inr ?_⟩
        rw [SheetColumn.qualified, named.1, named.2, ← whole]
        simp [TableName.column, TableName.toText, Text.joined, List.intercalate, List.intersperse]
      next => cases h
  next => cases h

/-- A name denotes a database column only on a sheet with a page. -/
theorem exists_page_of_resolveColumn (h : s.resolveColumn name = .ok (.database i c)) :
    ∃ page, s.page = some page := by
  have there := (column_of_resolveColumn h).1
  cases loaded : s.page with
  | some page => exact ⟨page, rfl⟩
  | none =>
    rw [columns, loaded] at there
    cases there

theorem resolveColumn_of_notMem (h : '.' ∉ name) : s.resolveColumn name = s.resolvePlain name := by
  rw [resolveColumn, Text.split_of_not_mem h]

/-- A plain name that a column of the page has denotes the first such column, in any order that the
columns are in. -/
theorem exists_resolveColumn_of_mem {R : SheetColumn → SheetColumn → Prop} (refl : ∀ c, R c c)
    (ordered : s.columns.Pairwise R) (plain : '.' ∉ name) (mem : c ∈ s.columns)
    (named : c.column.name = name) :
    ∃ i first, s.resolveColumn name = .ok (.database i first) ∧ s.columns[i]? = some first ∧
      first.column.name = name ∧ R first c := by
  have holds : (c.column.name == name) = true := beq_iff_eq.2 named
  rw [resolveColumn_of_notMem plain, resolvePlain]
  cases found : firstWithIndex? (fun c => c.column.name == name) s.columns with
  | none => exact absurd (firstWithIndex?_eq_none.1 found c mem) (by simp [holds])
  | some first =>
    obtain ⟨there, same⟩ := of_firstWithIndex?_eq_some found
    have before := rel_of_firstWithIndex?_eq_some refl ordered found mem holds
    exact ⟨_, _, rfl, there, beq_iff_eq.1 same, before⟩

/-- A plain name that no column of the page has denotes the extra column of that name, if there is
one. -/
theorem resolveColumn_of_forall_ne (plain : '.' ∉ name)
    (unnamed : ∀ c ∈ s.columns, c.column.name ≠ name) :
    s.resolveColumn name = match s.extras.findIdx? fun c => c.name == name with
      | some i => .ok (.extra i)
      | none => .error (.resolve (.unknownColumn name)) := by
  have absent : firstWithIndex? (fun c => c.column.name == name) s.columns = none :=
    firstWithIndex?_eq_none.2 fun c mem => beq_eq_false_iff_ne.2 (unnamed c mem)
  rewrite [resolveColumn_of_notMem plain, resolvePlain, absent]
  rfl

/-- A name with points does not denote an extra column. -/
theorem resolveColumn_ne_extra (h : '.' ∈ name) (i : Nat) :
    s.resolveColumn name ≠ .ok (.extra i) := by
  unfold resolveColumn
  split
  next plain parts => exact absurd parts (Text.split_ne_singleton h plain)
  next =>
    unfold resolveQualified
    split
    · nofun
    · split <;> nofun
  next => nofun

end Sheet

end JoinSheet
