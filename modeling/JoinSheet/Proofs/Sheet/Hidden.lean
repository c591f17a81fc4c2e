import JoinSheet.Proofs.Evaluation.Dependence
import JoinSheet.Proofs.Sheet.Layout
import JoinSheet.Proofs.Workbook.InPlace

/-!
# Preferences of hidden columns

A page takes no notice of the preferences of columns that it does not show. Two sheets with one path
whose preferences are alike show the same columns; these have the same preferences on both sheets,
so the statement is the same, and so is the answer. Formulas take no notice of preferences at all.

## Main definitions

* `Preference.Alike`, `Sheet.AgreesVisibly` — preferences that differ in hidden columns only.
* `Sheet.withPreferences` — the sheet with other preferences.
* `Sheet.loading` — the dialogue in which a page is loaded.

## Main statements

* `Sheet.display_congr`, `Sheet.statement_congr` — the same columns and the same statement.
* `Sheet.leadsBy_fetchPage_congr` — the same page.
* `Sheet.recompute_withPreferences` — the same values of formulas.
* `Sheet.loading_layout` — what a load shows, and what makes no difference to it.
-/

namespace JoinSheet

variable {α : Type} {c c' : Catalog} {log : List Exchange}

/-! ## Preferences that are alike -/

/-- The preferences are the same, or both hide the column. -/
def Preference.Alike (p q : Preference) : Prop := q = p ∨ p.hide = true ∧ q.hide = true

namespace Preference.Alike

variable {p q : Preference}

theorem eq_of_shown (h : p.Alike q) (shown : p.hide = false) : q = p := by
  obtain same | ⟨hidden, -⟩ := h
  · exact same
  · exact absurd (shown.symm.trans hidden) Bool.false_ne_true

theorem hide_eq (h : p.Alike q) : q.hide = p.hide := by
  obtain same | ⟨hidden, hidden'⟩ := h
  · exact congrArg hide same
  · exact hidden'.trans hidden.symm

end Preference.Alike

theorem mapM_congr_of_forall_mem {β : Type} {f g : α → Except Error β} {l : List α}
    (h : ∀ a ∈ l, f a = g a) : l.mapM f = l.mapM g := by
  induction l with
  | nil => rfl
  | cons a l ih =>
    obtain ⟨head, tail⟩ := List.forall_mem_cons.1 h
    rw [List.mapM_cons, List.mapM_cons, head, ih tail]

namespace Sheet

variable {s s₂ : Sheet} {limit offset : Nat} {page : Page}

/-- Of every column of the tables of the path, the preferences of the two sheets are the same or
both hide it. The catalog `c` holds the columns. -/
def AgreesVisibly (s s₂ : Sheet) (c : Catalog) : Prop :=
  ∀ t ∈ s.path.tables, ∀ columns, c.columns? t = some columns → ∀ column ∈ columns,
    (s.preference (t.column column.name)).Alike (s₂.preference (t.column column.name))

theorem mem_visible {t : TableName} {columns : List Column} {x : SheetColumn} :
    x ∈ s.visible t columns ↔
      ∃ column ∈ columns, x = ⟨t, column⟩ ∧ (s.preference x.qualified).hide = false := by
  simp only [visible, List.mem_filter, List.mem_map, Bool.not_eq_true']
  constructor
  · rintro ⟨⟨column, mem, rfl⟩, shown⟩
    exact ⟨column, mem, rfl, shown⟩
  · rintro ⟨column, mem, rfl, shown⟩
    exact ⟨⟨column, mem, rfl⟩, shown⟩

/-- Preferences that are alike arrange the columns of a table alike. -/
theorem arrange_congr {t : TableName} {columns : List Column}
    (alike : ∀ column ∈ columns,
      (s.preference (t.column column.name)).Alike (s₂.preference (t.column column.name))) :
    s₂.arrange t columns = s.arrange t columns ∧
      ∀ x ∈ s.arrange t columns, s₂.preference x.qualified = s.preference x.qualified := by
  have same (x : SheetColumn) (mem : x ∈ s.visible t columns) :
      s₂.preference x.qualified = s.preference x.qualified := by
    obtain ⟨column, there, rfl, shown⟩ := mem_visible.1 mem
    exact (alike column there).eq_of_shown shown
  have visible : s₂.visible t columns = s.visible t columns := by
    refine List.filter_congr fun x mem => ?_
    obtain ⟨column, there, rfl⟩ := List.mem_map.1 mem
    exact congrArg (!·) (alike column there).hide_eq
  refine ⟨?_, fun x mem => same x (List.mem_mergeSort.1 mem)⟩
  have places : ∀ a ∈ s.visible t columns, ∀ b ∈ s.visible t columns,
      decide (s.place a ≤ s.place b) = decide (s₂.place a ≤ s₂.place b) := by
    intro a ha b hb
    rw [place, place, place, place, same a ha, same b hb]
  have sorted := List.map_mergeSort (f := id) (r := fun a b => decide (s.place a ≤ s.place b))
    (s := fun a b => decide (s₂.place a ≤ s₂.place b)) places
  rw [List.map_id, List.map_id] at sorted
  rw [arrange, visible]
  exact sorted.symm

theorem display_congr {found : List (List Column)} (path : s₂.path = s.path)
    (held : List.Forall₂ (fun t columns => c.columns? t = some columns) s.path.tables found)
    (alike : s.AgreesVisibly s₂ c) : s₂.display found = s.display found ∧
      ∀ x ∈ s.display found, s₂.preference x.qualified = s.preference x.qualified := by
  rw [display, display, path]
  unfold AgreesVisibly at alike
  generalize s.path.tables = tables at held alike ⊢
  induction held with
  | nil => exact ⟨rfl, nofun⟩
  | @cons t columns tables found head _ ih =>
    obtain ⟨first, later⟩ := List.forall_mem_cons.1 alike
    obtain ⟨same, heeded⟩ := arrange_congr (first columns head)
    obtain ⟨same', heeded'⟩ := ih later
    rw [List.zipWith_cons_cons, List.zipWith_cons_cons, List.flatten_cons, List.flatten_cons, same,
      same']
    exact ⟨rfl, List.forall_mem_append.2 ⟨heeded, heeded'⟩⟩

/-- The statement of a page heeds the preferences of its columns only. -/
theorem statement_congr {columns : List SheetColumn} {key : List Text} (path : s₂.path = s.path)
    (same : ∀ x ∈ columns, s₂.preference x.qualified = s.preference x.qualified) :
    s₂.statement columns key = s.statement columns key := by
  have filters : s₂.filterClauses columns = s.filterClauses columns := by
    unfold filterClauses
    rw [List.filterMap_congr fun x mem => by rw [same x mem]]
  have order : s₂.orderTerms columns key = s.orderTerms columns key := by
    unfold orderTerms
    rw [path, List.filter_congr fun x mem => by rw [same x mem],
      mapM_congr_of_forall_mem fun x mem => by rw [same x (List.mem_filter.1 mem).1]]
  rw [statement, statement, window, window, filters, order, path]

/-- A page is fetched alike for preferences that are alike. -/
theorem leadsBy_fetchPage_congr (path : s₂.path = s.path) (alike : s.AgreesVisibly s₂ c')
    (h : LeadsBy (s.fetchPage limit offset) c log page c') :
    LeadsBy (s₂.fetchPage limit offset) c log page c' := by
  obtain ⟨found, key, asked, window, sql, rows, described, stated, rfl, rfl⟩ :=
    leadsBy_fetchPage.1 h
  obtain ⟨held, -⟩ := JoinPath.columns?_of_describe described
  obtain ⟨shown, same⟩ := display_congr path held alike
  refine leadsBy_fetchPage.2 ⟨found, key, asked, window, sql, rows, path ▸ described, ?_, ?_, rfl⟩
  · rw [shown, statement_congr path same, stated]
  · rw [shown]

/-! ## Formulas -/

/-- The sheet with other preferences. -/
def withPreferences (s : Sheet) (preferences : Std.ExtTreeMap Text Preference) : Sheet :=
  { s with preferences }

/-- No evaluation heeds preferences. -/
theorem evaluate_withPreferences (s : Sheet) (preferences : Std.ExtTreeMap Text Preference)
    (connection : Option Dialect) (formula : Text) :
    (s.withPreferences preferences).evaluate connection formula =
      s.evaluate connection formula := by
  unfold evaluate evaluateTokens
  refine bind_congr fun tokens => ?_
  have agree : s.AgreesOn (Token.Refers tokens) (s.withPreferences preferences) :=
    agreesOn_of_names rfl rfl rfl fun _ _ _ _ _ _ => rfl
  rw [Scope.evaluate_eq_of_agreesOn agree]

theorem recomputeCell_withPreferences (s : Sheet) (preferences : Std.ExtTreeMap Text Preference)
    (connection : Option Dialect) (i row : Nat) :
    (s.withPreferences preferences).recomputeCell connection i row =
      s.recomputeCell connection i row >>= fun s' => pure (s'.withPreferences preferences) := by
  have extras : (s.withPreferences preferences).extras = s.extras := rfl
  unfold recomputeCell
  rw [extras]
  split
  · split
    · split
      · rw [pure_bind]
      · rw [evaluate_withPreferences]
        simp only [bind_assoc]
        refine bind_congr fun outcome => ?_
        cases outcome <;> rfl
    · rw [pure_bind]
  · rw [pure_bind]

/-- Formulas are evaluated again alike whatever the preferences are. -/
theorem recompute_withPreferences (s : Sheet) (preferences : Std.ExtTreeMap Text Preference)
    (connection : Option Dialect) : (s.withPreferences preferences).recompute connection =
      s.recompute connection >>= fun s' => pure (s'.withPreferences preferences) := by
  have places : (s.withPreferences preferences).extraPlaces = s.extraPlaces := rfl
  unfold recompute
  rw [places]
  generalize s.extraPlaces = places
  induction places generalizing s with
  | nil => rfl
  | cons place places ih =>
    obtain ⟨i, row⟩ := place
    simp only [List.foldlM_cons, recomputeCell_withPreferences, bind_assoc, pure_bind]
    exact bind_congr fun s' => ih s' rfl

/-! ## Loading -/

/-- The dialogue in which a page is loaded, from the catalog `c` on. -/
def loading (s : Sheet) (dialect : Dialect) (limit offset : Nat) (c : Catalog) :
    Dialogue (Except Error Sheet × Catalog) :=
  (s.loadRows dialect limit offset).run.run c

variable {σ : Type} {server : Server σ} {d : σ} {dialect : Dialect} {s' : Sheet}

/-- A page is loaded: it is fetched, and then the formulas are evaluated on it. -/
theorem exists_fetched_of_loading
    (h : ((s.loading dialect limit offset c).run server d).1 = (.ok s', c')) :
    ∃ page fetched rest t u, LeadsBy (s.fetchPage limit offset) c fetched page c' ∧
      ((s.setPage page).recompute (some dialect)).Follows rest s' ∧
      Dialogue.Answered server d fetched t ∧ Dialogue.Answered server t rest u ∧
      (s.loading dialect limit offset c).transcript server d = fetched ++ rest := by
  have led : LeadsBy (s.loadRows dialect limit offset) c
      ((s.loading dialect limit offset c).transcript server d) s' c' := by
    have follows := Dialogue.follows_transcript server (s.loading dialect limit offset c) d
    rw [h] at follows
    exact follows
  have answered := Dialogue.answered_transcript server (s.loading dialect limit offset c) d
  rw [loadRows_eq] at led
  obtain ⟨page, _, fetched, rest, first, later, log⟩ := leadsBy_bind.1 led
  obtain ⟨evaluated, rfl⟩ := leadsBy_liftM.1 later
  rw [log] at answered
  obtain ⟨t, asked, queried⟩ := Dialogue.answered_append.1 answered
  exact ⟨page, fetched, rest, t, _, first, evaluated, asked, queried, log⟩

/-- A page is loaded if it can be fetched. -/
theorem loading_of_fetched {fetched rest : List Exchange} {t u : σ}
    (first : LeadsBy (s.fetchPage limit offset) c fetched page c')
    (evaluated : ((s.setPage page).recompute (some dialect)).Follows rest s')
    (asked : Dialogue.Answered server d fetched t) (queried : Dialogue.Answered server t rest u) :
    ((s.loading dialect limit offset c).run server d).1 = (.ok s', c') ∧
      (s.loading dialect limit offset c).transcript server d = fetched ++ rest := by
  have led : LeadsBy (s.loadRows dialect limit offset) c (fetched ++ rest) s' c' := by
    rw [loadRows_eq]
    exact leadsBy_bind.2 ⟨page, c', fetched, rest, first, leadsBy_liftM.2 ⟨evaluated, rfl⟩, rfl⟩
  have answered := Dialogue.answered_append.2 ⟨t, asked, queried⟩
  exact ⟨congrArg Prod.fst (Dialogue.run_of_follows led answered),
    Dialogue.transcript_of_follows led answered⟩

/-- Evaluating the formulas on a page ends with every database, and leaves the page. -/
theorem exists_follows_recompute (s : Sheet) (connection : Option Dialect) (server : Server σ)
    (t : σ) : ∃ rest s' u, (s.recompute connection).Follows rest s' ∧
      Dialogue.Answered server t rest u := by
  obtain ⟨s', done⟩ := (s.succeeds_recompute connection).run server t
  exact ⟨_, s', _, Action.follows_transcript (a := s.recompute connection) done,
    Dialogue.answered_transcript server _ t⟩

/-- The sheet with the page `page` has it after its formulas have been evaluated. -/
theorem page_of_follows_recompute {rest : List Exchange}
    (h : ((s.setPage page).recompute (some dialect)).Follows rest s') : s'.page = some page :=
  (h.of_yields (yields_recompute _ (some dialect))).2

/-- A page that is loaded shows the visible columns of the tables of the path, each once and grouped
by table, in the stable order of their places. Its statement has a condition for each visible column
with a filter that is not blank and an order term for each that is sorted, in the order in which
they are shown, and then the primary key of the base table. Preferences of hidden columns and of
columns that are not on the path make no difference, neither to the statement nor to the page, nor
to the formulas of the sheet. -/
theorem loading_layout (server : Server σ) (d : σ) (dialect : Dialect) (limit offset : Nat)
    (c c' : Catalog) (s s' : Sheet)
    (h : ((s.loading dialect limit offset c).run server d).1 = (.ok s', c')) :
    (∃ page reading, s'.page = some page ∧ page.offset = offset ∧
      ((s.loading dialect limit offset c).transcript server d).findSome? Exchange.reading? =
        some reading ∧
      page.LaidOut s c' limit reading) ∧
    ∀ s₂ : Sheet, s₂.path = s.path → s.AgreesVisibly s₂ c' → ∃ s₂',
      ((s₂.loading dialect limit offset c).run server d).1 = (.ok s₂', c') ∧
      s₂'.page = s'.page ∧
      ((s₂.loading dialect limit offset c).transcript server d).findSome? Exchange.reading? =
        ((s.loading dialect limit offset c).transcript server d).findSome? Exchange.reading? ∧
      (s₂.settings = s.settings → s₂.extras = s.extras →
        s₂' = s'.withPreferences s₂.preferences ∧
        (s₂.loading dialect limit offset c).transcript server d =
          (s.loading dialect limit offset c).transcript server d) := by
  obtain ⟨page, fetched, rest, t, u, first, evaluated, asked, queried, log⟩ :=
    exists_fetched_of_loading h
  have shown := page_of_follows_recompute evaluated
  obtain ⟨reading, sent, laidOut, place⟩ := laidOut_of_leadsBy first
  refine ⟨⟨page, reading, shown, place, log ▸ sent rest, laidOut⟩, fun s₂ path alike => ?_⟩
  have first₂ := leadsBy_fetchPage_congr path alike first
  obtain ⟨rest₂, s₂', u₂, evaluated₂, queried₂⟩ :=
    exists_follows_recompute (s₂.setPage page) (some dialect) server t
  obtain ⟨loaded, log₂⟩ := loading_of_fetched first₂ evaluated₂ asked queried₂
  refine ⟨s₂', loaded, (page_of_follows_recompute evaluated₂).trans shown.symm, ?_, ?_⟩
  · rw [log, log₂, sent, sent]
  · intro settings extras
    have same : s₂.setPage page = (s.setPage page).withPreferences s₂.preferences := by
      simp only [setPage, withPreferences, settings, path, extras]
    have evaluated' : ((s₂.setPage page).recompute (some dialect)).Follows rest
        (s'.withPreferences s₂.preferences) := by
      rw [same, recompute_withPreferences]
      exact Action.follows_bind.2 ⟨s', rest, [], evaluated, Action.follows_pure.2 ⟨rfl, rfl⟩,
        (List.append_nil rest).symm⟩
    obtain ⟨loaded', log'⟩ := loading_of_fetched first₂ evaluated' asked queried
    rw [loaded] at loaded'
    cases loaded'
    exact ⟨rfl, log'.trans log.symm⟩

/-- Lines are joined to their orders, and the notes of orders are hidden. What the sheet would sort
and filter the notes by makes no difference, and neither does a preference for a table off the
path. -/
theorem loading_layout_hidden :
    let orders : TableName := ⟨"s", "orders"⟩
    let lines : TableName := ⟨"s", "lines"⟩
    let columns : List Column := [{ name := "id", primaryKey := true }, { name := "note" }]
    let columns' : List Column := [{ name := "total" }]
    let server := Scripted.server
      ⟨[], .ofList [("s.orders".toList, columns), ("s.lines".toList, columns')], [], ∅, none⟩
    let script : Script Request := { answers := [.rows [[some "3", some "9"]]] }
    let c := Catalog.ofTables [orders, lines]
    let link : Link := ⟨7, ⟨lines, orders, ["order"], ["id"]⟩, lines⟩
    let path : JoinPath := { base := orders, links := [link] }
    let s := ({ settings := {}, path } : Sheet).setPreference "s.orders.note" { hide := true }
      |>.setPreference "s.lines.total" { sortOn := true, filter := some "> 5" }
    let s₂ := s.setPreference "s.orders.note" { hide := true, sortOn := true, filter := some "= 3" }
      |>.setPreference "s.items.id" { sortOn := true }
    let sql : Text := "SELECT CAST(\"s\".\"orders\".\"id\" AS text)," ++
      " CAST(\"s\".\"lines\".\"total\" AS text) FROM \"s\".\"orders\"" ++
      " LEFT JOIN \"s\".\"lines\" ON \"s\".\"lines\".\"order\" = \"s\".\"orders\".\"id\"" ++
      " WHERE \"s\".\"lines\".\"total\" > 5 ORDER BY \"s\".\"lines\".\"total\" DESC," ++
      " \"s\".\"orders\".\"id\" ASC LIMIT $1 OFFSET $2"
    ∃ s' c' s₂' page reading, ((s.loading .sqlite 10 0 c).run server script).1 = (.ok s', c') ∧
      ((s₂.loading .sqlite 10 0 c).run server script).1 = (.ok s₂', c') ∧
      s'.page = some page ∧ s₂'.page = some page ∧ page.LaidOut s c' 10 reading ∧
      ((s₂.loading .sqlite 10 0 c).transcript server script).findSome? Exchange.reading? =
        some reading ∧ reading.sql = sql := by
  intro orders lines columns columns' server script c link path s s₂ sql
  have succeeds : ((s.loading .sqlite 10 0 c).run server script).1.1.isOk := by decide +kernel
  have held : ((s.loading .sqlite 10 0 c).run server script).1.2.columns? orders =
      some columns := by decide +kernel
  have held' : ((s.loading .sqlite 10 0 c).run server script).1.2.columns? lines =
      some columns' := by decide +kernel
  have text : (((s.loading .sqlite 10 0 c).transcript server script).findSome?
      Exchange.reading?).map Reading.sql = some sql := by decide +kernel
  cases loaded : ((s.loading .sqlite 10 0 c).run server script).1 with
  | mk result c' =>
    rw [loaded] at succeeds held held'
    cases result with
    | error e => cases succeeds
    | ok s' =>
      have alike : s.AgreesVisibly s₂ c' := by
        intro t mem found told column there
        obtain rfl | rfl : t = orders ∨ t = lines := List.mem_pair.1 mem
        · obtain rfl := Option.some.inj (held.symm.trans told)
          obtain rfl | rfl := List.mem_pair.1 there
          · exact .inl (by decide +kernel)
          · exact .inr (by decide +kernel)
        · obtain rfl := Option.some.inj (held'.symm.trans told)
          obtain rfl := List.mem_singleton.1 there
          exact .inl (by decide +kernel)
      obtain ⟨⟨page, reading, shown, -, sent, laidOut⟩, others⟩ :=
        loading_layout server script .sqlite 10 0 c c' s s' loaded
      obtain ⟨s₂', loaded₂, same, sent₂, -⟩ := others s₂ rfl alike
      rw [sent] at text sent₂
      exact ⟨s', c', s₂', page, reading, rfl, loaded₂, shown, same.trans shown, laidOut, sent₂,
        Option.some.inj text⟩

end Sheet

end JoinSheet
