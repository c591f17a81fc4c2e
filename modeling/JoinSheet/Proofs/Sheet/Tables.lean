import JoinSheet.Proofs.Catalog.Path
import JoinSheet.Sheet.Load

/-!
# The tables of a sheet

What an operation on a sheet does to its join path and to its page. Columns and cells of the sheet's
own have no part in either. A path is put in place only once it has been resolved, and nothing is
loaded then. A page that is loaded comes from the tables of the path.

## Main definitions

* `Sheet.SameTables` — two sheets have one path and one page.
* `Sheet.Coherent` — the path has been resolved and the page comes from it.

## Main statements

* `Sheet.grows_setJoin`, `Sheet.Coherent.setTable`, `Sheet.Coherent.truncateJoins` — changes of the
  path.
* `Sheet.grows_loadRows` — loading a page.
-/

namespace JoinSheet

namespace Sheet

variable {s s' : Sheet} {c c' : Catalog} {connection : Option Dialect}

/-! ## What keeps path and page -/

/-- The sheet `s'` has the path and the page of `s`. -/
def SameTables (s s' : Sheet) : Prop := s'.path = s.path ∧ s'.page = s.page

theorem SameTables.refl (s : Sheet) : SameTables s s := ⟨rfl, rfl⟩

theorem SameTables.trans {s'' : Sheet} (h : SameTables s s') (h' : SameTables s' s'') :
    SameTables s s'' :=
  ⟨h'.1.trans h.1, h'.2.trans h.2⟩

theorem sameTables_setExtra (s : Sheet) (i : Nat) (column : ExtraColumn) :
    SameTables s (s.setExtra i column) := ⟨rfl, rfl⟩

theorem sameTables_addColumn {name : Option Text} (h : s.addColumn name = .ok s') :
    SameTables s s' := by
  obtain ⟨_, _, h⟩ := Except.bind_eq_ok.1 h
  cases h
  exact ⟨rfl, rfl⟩

theorem sameTables_renameColumn {i : Nat} {name : Text} (h : s.renameColumn i name = .ok s') :
    SameTables s s' := by
  obtain ⟨column, _, h⟩ := Except.bind_eq_ok.1 h
  split at h
  · cases h
    exact .refl s
  · obtain ⟨_, _, h⟩ := Except.bind_eq_ok.1 h
    cases h
    exact sameTables_setExtra s i _

theorem sameTables_deleteColumn {i : Nat} {column : ExtraColumn}
    (h : s.deleteColumn i = .ok (s', column)) : SameTables s s' := by
  obtain ⟨_, _, h⟩ := Except.bind_eq_ok.1 h
  cases h
  exact ⟨rfl, rfl⟩

theorem yields_setCell (s : Sheet) (connection : Option Dialect) (i row : Nat) (formula : Text) :
    (s.setCell connection i row formula).Yields fun r => SameTables s r.1 :=
  Action.yields_bind fun _ => Action.yields_bind fun _ =>
    Action.yields_pure (sameTables_setExtra s i _)

theorem yields_fillDown (s : Sheet) (connection : Option Dialect) (i row : Nat) (formula : Text) :
    (s.fillDown connection i row formula).Yields fun r => SameTables s r.1 :=
  Action.yields_bind fun _ => Action.yields_bind fun _ => Action.yields_bind fun _ =>
    Action.yields_pure (sameTables_setExtra s i _)

theorem yields_recomputeCell (s : Sheet) (connection : Option Dialect) (i row : Nat) :
    (s.recomputeCell connection i row).Yields (SameTables s) := by
  unfold recomputeCell
  split
  · split
    · split
      · exact Action.yields_pure (.refl s)
      · refine Action.yields_bind fun outcome => ?_
        split
        · exact Action.yields_bind fun _ => Action.yields_pure (sameTables_setExtra s i _)
        · exact Action.yields_bind fun _ => Action.yields_pure (sameTables_setExtra s i _)
    · exact Action.yields_pure (.refl s)
  · exact Action.yields_pure (.refl s)

theorem yields_recompute (s : Sheet) (connection : Option Dialect) :
    (s.recompute connection).Yields (SameTables s) := by
  refine Action.yields_foldlM (.refl s) fun s' place same => ?_
  exact (yields_recomputeCell s' connection place.1 place.2).mono fun _ => same.trans

/-! ## Coherence -/

/-- The path has been resolved, and a page that is loaded comes from the tables of the path. -/
structure Coherent (c : Catalog) (s : Sheet) : Prop where
  resolved : s.path.Resolved c
  loaded : ∀ page, s.page = some page →
    page.window.base = s.path.base ∧ page.window.joins = s.path.select.joins

namespace Coherent

theorem mono (h : s.Coherent c) (grown : c ≤ c') : s.Coherent c' :=
  ⟨h.resolved.mono grown, h.loaded⟩

theorem of_sameTables (h : s.Coherent c) (same : SameTables s s') : s'.Coherent c := by
  obtain ⟨path, page⟩ := same
  constructor
  · rw [path]
    exact h.resolved
  · rw [path, page]
    exact h.loaded

theorem ofTable (base : TableName) (settings : Settings) (c : Catalog) :
    (Sheet.ofTable base settings).Coherent c :=
  ⟨.base base, nofun⟩

theorem setPath {p : JoinPath} (resolved : p.Resolved c) (s : Sheet) : (s.setPath p).Coherent c :=
  ⟨resolved, nofun⟩

theorem setPage {page : Page} (h : s.Coherent c)
    (own : page.window.base = s.path.base ∧ page.window.joins = s.path.select.joins) :
    (s.setPage page).Coherent c := by
  refine ⟨h.resolved, ?_⟩
  rintro _ ⟨⟩
  exact own

theorem setTable (h : s.Coherent c) {known : Catalog} {qualified : Text}
    (chosen : s.setTable known qualified = .ok s') : s'.Coherent c := by
  obtain ⟨t, _, chosen⟩ := Except.bind_eq_ok.1 chosen
  cases chosen
  split
  · exact h
  · exact setPath (.base t) s

theorem truncateJoins (h : s.Coherent c) (n : Nat) : (s.truncateJoins n).Coherent c := by
  unfold Sheet.truncateJoins
  split
  · exact h
  · exact setPath (h.resolved.truncate n) s

end Coherent

/-- Choosing a join leads to a coherent sheet. -/
theorem grows_setJoin (h : s.Coherent c) (index : Nat) (id : ConstraintId) :
    Grows (s.setJoin index id) c fun s' c' => s'.Coherent c' := by
  unfold setJoin
  dsimp only
  -- The check comes before the second condition, which `split` would take first.
  by_cases gap : index > s.path.links.length
  · rw [if_pos gap]
    exact grows_throw_bind _
  rw [if_neg gap]
  split
  · exact grows_pure h
  · exact (JoinPath.grows_resolve s.path.base _ c).bind fun p c' _ resolved =>
      grows_pure (.setPath resolved s)

theorem memoized_layout (s : Sheet) : Memoized s.layout :=
  (memoized_mapM (fun t => (Catalog.memoized_columns t).bind fun _ => memoized_pure _) _).bind
    fun _ => memoized_pure _

/-- A selection of the sheet reads the tables of its path. -/
theorem window_eq_ok {columns : List SheetColumn} {primaryKey : List Text} {window : Select}
    (h : s.window columns primaryKey = .ok window) :
    window.base = s.path.base ∧ window.joins = s.path.select.joins := by
  obtain ⟨filters, _, h⟩ := Except.bind_eq_ok.1 h
  obtain ⟨order, _, h⟩ := Except.bind_eq_ok.1 h
  cases h
  exact ⟨rfl, rfl⟩

/-- Loading a page leads to a coherent sheet. -/
theorem grows_loadRows (h : s.Coherent c) (dialect : Dialect) (limit offset : Nat) :
    Grows (s.loadRows dialect limit offset) c fun s' c' => s'.Coherent c' := by
  unfold loadRows
  refine (memoized_layout s c).bind fun columns c₁ grown₁ _ => ?_
  refine (Catalog.memoized_primaryKey _ c₁).bind fun primaryKey c₂ grown₂ _ => ?_
  refine (grows_except _).bind fun window c₃ grown₃ read => ?_
  refine (memoized_mapM (fun _ => memoized_except _) _ c₃).bind fun projection c₄ grown₄ _ => ?_
  refine (grows_except _).bind fun sql c₅ grown₅ _ => ?_
  refine (grows_action (Action.yields_true _)).bind fun rows c₆ grown₆ _ => ?_
  have grown : c ≤ c₆ :=
    ((((grown₁.trans grown₂).trans grown₃).trans grown₄).trans grown₅).trans grown₆
  have shown : (s.setPage ⟨columns, window, rows, offset⟩).Coherent c₆ :=
    .setPage (h.mono grown) (window_eq_ok read)
  exact (grows_action (yields_recompute _ _)).mono fun s' c' later same =>
    (shown.mono later).of_sameTables same

end Sheet

end JoinSheet
