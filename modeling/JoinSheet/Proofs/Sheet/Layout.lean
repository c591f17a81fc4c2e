import JoinSheet.Proofs.Sheet.Page
import JoinSheet.Proofs.Sql.Source

/-!
# The layout of a page

A page shows the columns of the tables on its path that no preference hides, one table after the
other, and the columns of a table in the order of their places. The statement that reads them is
made up from these columns and their preferences.

A page is fetched in two steps, and what is shown of each is put together in the end: the catalog
describes the path, and the statement is sent that its description gives.

## Main definitions

* `Catalog.columns?` — the columns that the catalog holds of a table.
* `Sheet.Arranges` — the visible columns of a table in the order of their places.
* `PageStatement`, `Sheet.States` — the parts of the statement for a page.
* `Page.LaidOut` — what a page shows, and the statement that it is read by.

## Main statements

* `Sheet.arranges_arrange` — the columns of a table are sorted by their places.
* `Sheet.fetchPage_eq` — fetching a page in two steps.
* `Sheet.states_of_statement` — a statement is made up of the parts that the columns state.
* `Sheet.laidOut_of_leadsBy` — a page that has been fetched is laid out.
-/

namespace JoinSheet

variable {α : Type} {c c' : Catalog} {t : TableName} {log : List Exchange}

/-! ## Lists -/

/-- Elements that are sorted to the same place stay in their order. -/
theorem filter_mergeSort (place : α → Int) (l : List α) (n : Int) :
    (l.mergeSort fun a b => place a ≤ place b).filter (place · = n) = l.filter (place · = n) := by
  have level : (l.filter (place · = n)).Pairwise fun a b => decide (place a ≤ place b) := by
    refine List.pairwise_of_forall_mem_list fun a ha b hb => ?_
    simp only [List.mem_filter, decide_eq_true_eq] at ha hb ⊢
    exact (ha.2.trans hb.2.symm).le
  have kept : (l.filter (place · = n)).Sublist (l.mergeSort fun a b => place a ≤ place b) := by
    refine List.sublist_mergeSort (fun a b c => ?_) (fun a b => ?_) level List.filter_sublist
    · simpa using Int.le_trans
    · simpa using Int.le_total _ _
  have among := kept.filter (place · = n)
  rw [List.filter_filter] at among
  simp only [Bool.and_self] at among
  exact (among.eq_of_length ((List.mergeSort_perm l _).filter _).length_eq.symm).symm

/-- Elements that come to something, with what is related to it. -/
theorem forall₂_filterMap {β γ : Type} {f : α → Option β} {R : β → γ → Prop} {l : List α}
    {r : List γ} (h : List.Forall₂ R (l.filterMap f) r) :
    List.Forall₂ (fun a x => ∃ b, f a = some b ∧ R b x) (l.filter fun a => (f a).isSome) r := by
  induction l generalizing r with
  | nil =>
    cases h
    exact .nil
  | cons a l ih =>
    cases found : f a with
    | none =>
      rw [List.filterMap_cons_none found] at h
      rw [List.filter_cons_of_neg (by simp [found])]
      exact ih h
    | some b =>
      rw [List.filterMap_cons_some found] at h
      rw [List.filter_cons_of_pos (by simp [found])]
      cases h with
      | cons head rest => exact .cons ⟨b, found, head⟩ (ih rest)

/-! ## What the catalog holds -/

namespace Catalog

/-- The columns that the catalog holds of a table. -/
def columns? (c : Catalog) (t : TableName) : Option (List Column) :=
  c.entries[t]?.bind TableEntry.columns

theorem columns?_of_le (grown : c ≤ c') {found : List Column} (h : c.columns? t = some found) :
    c'.columns? t = some found := by
  obtain ⟨known, there, held⟩ := Option.bind_eq_some_iff.1 h
  obtain ⟨known', there', more⟩ := grown t known there
  rw [columns?, there']
  exact more.1 found held

/-- The catalog holds what it recalls. -/
theorem columns?_of_recalls {found : List Column} (h : c.Recalls (columns t) found) :
    c.columns? t = some found := by
  have run := h c (le_refl c)
  unfold columns at run
  cases there : c.entries[t]? with
  | none =>
    rw [ExceptT.run_bind, StateT.run_bind, run_entry, there] at run
    cases run
  | some known =>
    rw [entry_bind there] at run
    rw [columns?, there]
    cases held : known.columns with
    | none =>
      rw [held] at run
      cases run
    | some found' =>
      rw [held] at run
      cases run
      exact held

/-- Columns that have been asked for are held from then on. -/
theorem columns?_of_leadsBy {found : List Column} (h : LeadsBy (columns t) c log found c') :
    c ≤ c' ∧ c'.columns? t = some found := by
  obtain ⟨grown, recalled⟩ := Dialogue.Always.of_follows (memoized_columns t c) h
  exact ⟨grown, columns?_of_recalls (recalled found rfl)⟩

theorem columns?_of_leadsBy_mapM {tables : List TableName} {found : List (List Column)}
    (h : LeadsBy (tables.mapM columns) c log found c') :
    c ≤ c' ∧ List.Forall₂ (fun t columns => c'.columns? t = some columns) tables found := by
  induction tables generalizing c log found with
  | nil =>
    obtain ⟨-, rfl, rfl⟩ := leadsBy_pure.1 h
    exact ⟨le_refl c, .nil⟩
  | cons t tables ih =>
    rw [List.mapM_cons] at h
    obtain ⟨first, c₁, _, _, head, h, -⟩ := leadsBy_bind.1 h
    obtain ⟨rest, _, _, _, tail, h, -⟩ := leadsBy_bind.1 h
    obtain ⟨-, rfl, rfl⟩ := leadsBy_pure.1 h
    obtain ⟨grown, held⟩ := columns?_of_leadsBy head
    obtain ⟨grown', held'⟩ := ih tail
    exact ⟨grown.trans grown', .cons (columns?_of_le grown' held) held'⟩

theorem columns?_of_leadsBy_primaryKey {names : List Text}
    (h : LeadsBy (primaryKey t) c log names c') : c ≤ c' ∧ ∃ columns, c'.columns? t = some columns ∧
      names = (columns.filter Column.primaryKey).map Column.name := by
  obtain ⟨found, _, _, _, asked, h, -⟩ := leadsBy_bind.1 h
  obtain ⟨-, rfl, rfl⟩ := leadsBy_pure.1 h
  obtain ⟨grown, held⟩ := columns?_of_leadsBy asked
  exact ⟨grown, found, held, rfl⟩

end Catalog

/-! ## Visible columns in order -/

namespace Sheet

variable {s s' : Sheet}

/-- The place of a column among those of its table: that of its preference, or else the declared
position. -/
def place (s : Sheet) (c : SheetColumn) : Int :=
  (s.preference c.qualified).index.getD c.column.position

/-- The columns of a table that no preference hides, in declared order. -/
def visible (s : Sheet) (t : TableName) (columns : List Column) : List SheetColumn :=
  (columns.map (⟨t, ·⟩)).filter fun c => !(s.preference c.qualified).hide

/-- The columns of a table as a page shows them. -/
def arrange (s : Sheet) (t : TableName) (columns : List Column) : List SheetColumn :=
  (s.visible t columns).mergeSort fun a b => s.place a ≤ s.place b

/-- The group is the visible columns of a table, each once, ordered by their places. Columns with
one place are in declared order. -/
structure Arranges (s : Sheet) (t : TableName) (columns : List Column) (group : List SheetColumn) :
    Prop where
  perm : group.Perm (s.visible t columns)
  pairwise : group.Pairwise fun a b => s.place a ≤ s.place b
  stable : ∀ n, group.filter (s.place · = n) = (s.visible t columns).filter (s.place · = n)

theorem arranges_arrange (s : Sheet) (t : TableName) (columns : List Column) :
    s.Arranges t columns (s.arrange t columns) where
  perm := List.mergeSort_perm _ _
  pairwise := by
    have sorted : (s.arrange t columns).Pairwise fun a b => decide (s.place a ≤ s.place b) :=
      List.pairwise_mergeSort (fun a b c => by simpa using Int.le_trans)
        (fun a b => by simpa using Int.le_total _ _) _
    exact sorted.imp of_decide_eq_true
  stable := filter_mergeSort s.place _

/-- The columns of all tables as a page shows them. -/
def display (s : Sheet) (found : List (List Column)) : List SheetColumn :=
  (List.zipWith s.arrange s.path.tables found).flatten

end Sheet

/-! ## Two steps of fetching -/

theorem liftM_except_bind {β : Type} (x : Except Error α) (f : α → Except Error β) :
    (liftM (x >>= f) : CatalogAction β) = liftM x >>= fun a => liftM (f a) := by
  cases x <;> rfl

theorem liftM_except_mapM {β : Type} (f : α → Except Error β) (l : List α) :
    (liftM (l.mapM f) : CatalogAction (List β)) = l.mapM fun a => liftM (f a) := by
  induction l with
  | nil => rfl
  | cons a l ih =>
    rw [List.mapM_cons, List.mapM_cons, liftM_except_bind]
    simp only [liftM_except_bind, ih]
    rfl

theorem mapM_bind_pure {ι β : Type} (f : ι → CatalogAction α) (g : ι → α → β) (l : List ι) :
    (l.mapM fun i => f i >>= fun x => pure (g i x)) =
      l.mapM f >>= fun xs => pure (List.zipWith g l xs) := by
  induction l with
  | nil => simp
  | cons i l ih => simp only [List.mapM_cons, ih, bind_assoc, pure_bind, List.zipWith_cons_cons]

/-- What the catalog is asked about a path: the columns of its tables and the primary key of its
base. -/
def JoinPath.describe (p : JoinPath) : CatalogAction (List (List Column) × List Text) := do
  let found ← p.tables.mapM Catalog.columns
  let primaryKey ← Catalog.primaryKey p.base
  return (found, primaryKey)

namespace Sheet

variable {s s' : Sheet}

/-- The selection of a page with the statement that reads its columns. -/
def statement (s : Sheet) (columns : List SheetColumn) (primaryKey : List Text) :
    Except Error (Select × Text) := do
  let window ← s.window columns primaryKey
  let projection ← columns.mapM fun c => Projection.read c.qualified (some "text") none
  let sql ← window.renderPage projection
  return (window, sql)

theorem layout_eq (s : Sheet) :
    s.layout = s.path.tables.mapM Catalog.columns >>= fun found => pure (s.display found) := by
  have tables : s.path.tables.mapM s.tableLayout = _ :=
    mapM_bind_pure Catalog.columns s.arrange s.path.tables
  rw [layout, tables, bind_assoc]
  rfl

/-- A page is fetched in two steps: the catalog describes the path, and then the statement is
sent. -/
theorem fetchPage_eq (s : Sheet) (limit offset : Nat) : s.fetchPage limit offset = (do
    let told ← s.path.describe
    let stated ← s.statement (s.display told.1) told.2
    let rows ← Action.query stated.2 (.page limit offset)
    return ⟨s.display told.1, stated.1, rows, offset⟩) := by
  rw [fetchPage, layout_eq, JoinPath.describe]
  simp only [bind_assoc, pure_bind]
  refine bind_congr fun found => bind_congr fun primaryKey => ?_
  simp only [statement, liftM_except_bind, liftM_except_mapM, bind_assoc]
  rfl

theorem leadsBy_fetchPage {limit offset : Nat} {page : Page} :
    LeadsBy (s.fetchPage limit offset) c log page c' ↔ ∃ found primaryKey asked window sql rows,
      LeadsBy s.path.describe c asked (found, primaryKey) c' ∧
      s.statement (s.display found) primaryKey = .ok (window, sql) ∧
      page = ⟨s.display found, window, rows, offset⟩ ∧
      log = asked ++ [⟨.query sql (.page limit offset), .ok rows⟩] := by
  rw [fetchPage_eq]
  constructor
  · intro h
    obtain ⟨⟨found, primaryKey⟩, _, asked, _, described, chosen, rfl⟩ := leadsBy_bind.1 h
    obtain ⟨⟨window, sql⟩, stated, asks⟩ := leadsBy_liftM_bind.1 chosen
    obtain ⟨rows, _, _, _, sent, shown, rfl⟩ := leadsBy_bind.1 asks
    obtain ⟨answered, rfl⟩ := leadsBy_liftM.1 sent
    obtain rfl := Action.follows_ask.1 answered
    obtain ⟨rfl, rfl, rfl⟩ := leadsBy_pure.1 shown
    exact ⟨found, primaryKey, asked, window, sql, rows, described, stated, rfl, by simp⟩
  · rintro ⟨found, primaryKey, asked, window, sql, rows, described, stated, rfl, rfl⟩
    refine leadsBy_bind.2 ⟨_, _, asked, _, described, ?_, rfl⟩
    refine leadsBy_liftM_bind.2 ⟨_, stated, ?_⟩
    refine leadsBy_bind.2 ⟨rows, c', _, [], leadsBy_liftM.2 ⟨Action.follows_ask.2 rfl, rfl⟩,
      leadsBy_pure.2 ⟨rfl, rfl, rfl⟩, (List.append_nil _).symm⟩

/-- The groups of the columns of a page. -/
theorem forall₂_arrange {tables : List TableName} {found : List (List Column)}
    (h : List.Forall₂ (fun t columns => c.columns? t = some columns) tables found) :
    List.Forall₂ (fun t group => ∃ columns, c.columns? t = some columns ∧
      s.Arranges t columns group) tables (List.zipWith s.arrange tables found) := by
  induction h with
  | nil => exact .nil
  | cons held _ ih => exact .cons ⟨_, held, s.arranges_arrange _ _⟩ ih

end Sheet

/-! ## The statement of a page -/

/-- The parts of a statement that reads a page. -/
structure PageStatement where
  casts : List Text
  base : Text
  joins : List Text
  filters : List Text
  order : List Text

/-- The statement that the parts make up. -/
def PageStatement.sql (p : PageStatement) : Text :=
  "SELECT " ++ Text.joined ", " p.casts ++ " FROM " ++ p.base ++ p.joins.flatten ++
    Select.renderPart " WHERE " " AND " p.filters ++
    Select.renderPart " ORDER BY " ", " p.order ++ " LIMIT $1 OFFSET $2"

/-- The statement of a page in parts. -/
theorem Select.exists_of_renderPage_eq_ok {window : Select} {projection : List Projection}
    {sql : Text} (h : window.renderPage projection = .ok sql) :
    ∃ base joins, Identifier.ofTable window.base = .ok base ∧
      window.joins.mapM Join.render = .ok joins ∧
      sql = PageStatement.sql ⟨projection.map Projection.render, base.render, joins,
        window.filters.map Clause.render, window.order.map OrderTerm.render⟩ := by
  obtain ⟨-, source, rendered, rfl⟩ := renderPage_eq_ok.1 h
  obtain ⟨base, joins, isBase, joined, rfl⟩ := renderSource_eq_ok.1 rendered
  refine ⟨base, joins, isBase, joined, ?_⟩
  unfold PageStatement.sql narrowing
  rw [if_pos rfl]
  simp only [List.append_assoc]

theorem Projection.render_of_read_text {q : Text} {p : Projection}
    (h : Projection.read q (some "text") none = .ok p) :
    ∃ i, Identifier.read q = .ok i ∧ p.render = "CAST(" ++ i.render ++ " AS text)" := by
  obtain ⟨i, read, h⟩ := Except.bind_eq_ok.1 h
  cases h
  refine ⟨i, read, ?_⟩
  have word : " AS ".toList ++ CastType.text.toText ++ ")".toList = " AS text)".toList := rfl
  rw [← word]
  simp only [Projection.render, List.append_assoc]

theorem OrderTerm.render_of_read {q : Text} {ascending : Bool} {o : OrderTerm}
    (h : OrderTerm.read q ascending = .ok o) : ∃ i, Identifier.read q = .ok i ∧
      o.render = i.render ++ if ascending then (" ASC" : Text) else " DESC" := by
  obtain ⟨i, read, rfl⟩ := Except.map_eq_ok.1 h
  exact ⟨i, read, rfl⟩

namespace Sheet

variable {s s' : Sheet}

/-- A preference puts a condition on a column if its filter is not blank. -/
def isFiltered (s : Sheet) (c : SheetColumn) : Bool :=
  (s.preference c.qualified).filter.any fun f => f.trim ≠ []

/-- The parts of the statement for a page with the columns `columns`, where `key` is the primary key
of the base table. -/
structure States (s : Sheet) (columns : List SheetColumn) (key : List Text) (p : PageStatement) :
    Prop where
  casts : List.Forall₂ (fun c cast => ∃ i, Identifier.read c.qualified = .ok i ∧
    cast = "CAST(" ++ i.render ++ " AS text)") columns p.casts
  base : ∃ i, Identifier.ofTable s.path.base = .ok i ∧ p.base = i.render
  joins : s.path.select.joins.mapM Join.render = .ok p.joins
  filters : List.Forall₂ (fun c text => ∃ f clause, (s.preference c.qualified).filter = some f ∧
    Clause.ofFilter c.qualified f = .ok clause ∧ text = clause.render)
    (columns.filter s.isFiltered) p.filters
  order : ∃ sorted keys, p.order = sorted ++ keys ∧
    List.Forall₂ (fun c term => ∃ i, Identifier.read c.qualified = .ok i ∧
      term = i.render ++ if (s.preference c.qualified).ascending then (" ASC" : Text) else " DESC")
      (columns.filter fun c => (s.preference c.qualified).sortOn) sorted ∧
    List.Forall₂ (fun name term => ∃ i, Identifier.read (s.path.base.column name) = .ok i ∧
      term = i.render ++ " ASC") key keys

/-- The conditions of a page are those of its filtered columns. -/
theorem forall₂_of_filterClauses {columns : List SheetColumn} {clauses : List Clause}
    (h : s.filterClauses columns = .ok clauses) :
    List.Forall₂ (fun c text => ∃ f clause, (s.preference c.qualified).filter = some f ∧
      Clause.ofFilter c.qualified f = .ok clause ∧ text = clause.render)
      (columns.filter s.isFiltered) (clauses.map Clause.render) := by
  have each := forall₂_filterMap (Except.mapM_eq_ok.1 h)
  have filtered : (fun c : SheetColumn => (((s.preference c.qualified).filter.filter
      fun f => f.trim ≠ []).map fun f => (c, f)).isSome) = s.isFiltered := by
    funext c
    rw [Option.isSome_map, isFiltered]
    cases (s.preference c.qualified).filter with
    | none => rfl
    | some f => by_cases blank : f.trim = [] <;> simp [Option.filter_some, blank]
  rw [filtered] at each
  refine List.forall₂_map_right_iff.2 (each.imp ?_)
  rintro c clause ⟨⟨_, f⟩, put, read⟩
  obtain ⟨f, kept, same⟩ := Option.map_eq_some_iff.1 put
  cases same
  exact ⟨f, clause, (Option.filter_eq_some_iff.1 kept).1, read, rfl⟩

/-- The statement of a page is made up of its parts. -/
theorem states_of_statement {columns : List SheetColumn} {key : List Text} {window : Select}
    {sql : Text} (h : s.statement columns key = .ok (window, sql)) :
    ∃ p : PageStatement, s.States columns key p ∧ sql = p.sql := by
  obtain ⟨window, read, h⟩ := Except.bind_eq_ok.1 h
  obtain ⟨projection, casts, h⟩ := Except.bind_eq_ok.1 h
  obtain ⟨sql, rendered, h⟩ := Except.bind_eq_ok.1 h
  cases h
  obtain ⟨base, joins, isBase, joined, rfl⟩ := Select.exists_of_renderPage_eq_ok rendered
  obtain ⟨filters, conditions, chosen⟩ := Except.bind_eq_ok.1 read
  obtain ⟨order, terms, chosen⟩ := Except.bind_eq_ok.1 chosen
  obtain ⟨sorted, first, terms⟩ := Except.bind_eq_ok.1 terms
  obtain ⟨keys, last, terms⟩ := Except.bind_eq_ok.1 terms
  cases terms
  cases chosen
  refine ⟨_, ?_, rfl⟩
  constructor
  case casts =>
    exact List.forall₂_map_right_iff.2
      ((Except.mapM_eq_ok.1 casts).imp fun _ _ read => Projection.render_of_read_text read)
  case base => exact ⟨base, isBase, rfl⟩
  case joins => exact joined
  case filters => exact forall₂_of_filterClauses conditions
  case order =>
    refine ⟨sorted.map OrderTerm.render, keys.map OrderTerm.render, List.map_append, ?_, ?_⟩
    · exact List.forall₂_map_right_iff.2
        ((Except.mapM_eq_ok.1 first).imp fun _ _ read => OrderTerm.render_of_read read)
    · exact List.forall₂_map_right_iff.2
        ((Except.mapM_eq_ok.1 last).imp fun _ _ read => OrderTerm.render_of_read read)

end Sheet

/-! ## What a page shows -/

theorem JoinPath.asksOnly_describe (p : JoinPath) :
    AsksOnly (fun r => ¬r.isStatement) p.describe :=
  (asksOnly_mapM Catalog.asksOnly_columns _).bind fun _ =>
    (Catalog.asksOnly_primaryKey _).bind fun _ => asksOnly_pure _

/-- What the catalog has told of a path it holds. -/
theorem JoinPath.columns?_of_describe {p : JoinPath} {found : List (List Column)}
    {key : List Text} (h : LeadsBy p.describe c log (found, key) c') :
    List.Forall₂ (fun t columns => c'.columns? t = some columns) p.tables found ∧
      ∃ columns, c'.columns? p.base = some columns ∧
        key = (columns.filter Column.primaryKey).map Column.name := by
  obtain ⟨_, _, _, _, tables, h, -⟩ := leadsBy_bind.1 h
  obtain ⟨_, _, _, _, base, h, -⟩ := leadsBy_bind.1 h
  obtain ⟨-, same, rfl⟩ := leadsBy_pure.1 h
  cases same
  obtain ⟨-, held⟩ := Catalog.columns?_of_leadsBy_mapM tables
  obtain ⟨grown, keyed⟩ := Catalog.columns?_of_leadsBy_primaryKey base
  exact ⟨held.imp fun _ _ => Catalog.columns?_of_le grown, keyed⟩

/-- The page shows the visible columns of the tables of the path, those of one table after those of
another, and `reading` is the statement that reads them and its answer. The catalog `c` holds the
columns of the tables. -/
structure Page.LaidOut (page : Page) (s : Sheet) (c : Catalog) (limit : Nat) (reading : Reading) :
    Prop where
  grouped : ∃ groups, List.Forall₂ (fun t group => ∃ columns, c.columns? t = some columns ∧
    s.Arranges t columns group) s.path.tables groups ∧ page.columns = groups.flatten
  states : ∃ columns p, c.columns? s.path.base = some columns ∧
    s.States page.columns ((columns.filter Column.primaryKey).map Column.name) p ∧
    reading.sql = p.sql
  params : reading.params = .page limit page.offset
  answer : reading.answer = .ok page.rows

namespace Sheet

variable {s : Sheet} {limit offset : Nat} {page : Page}

/-- The first query for a page is its statement, and the page shows what it is answered. -/
theorem laidOut_of_leadsBy (h : LeadsBy (s.fetchPage limit offset) c log page c') :
    ∃ reading, (∀ rest, (log ++ rest).findSome? Exchange.reading? = some reading) ∧
      page.LaidOut s c' limit reading ∧ page.offset = offset := by
  obtain ⟨found, key, asked, window, sql, rows, described, stated, rfl, rfl⟩ :=
    leadsBy_fetchPage.1 h
  obtain ⟨held, columns, keyed, rfl⟩ := JoinPath.columns?_of_describe described
  obtain ⟨p, states, rfl⟩ := states_of_statement stated
  refine ⟨⟨p.sql, .page limit offset, .ok rows⟩, fun rest => ?_, ?_, rfl⟩
  · have silent := findSome?_reading?_eq_none (s.path.asksOnly_describe c) described
    rw [List.append_assoc, List.findSome?_append, silent]
    rfl
  · exact ⟨⟨_, forall₂_arrange held, rfl⟩, ⟨columns, p, keyed, states, rfl⟩, rfl, rfl⟩

end Sheet

end JoinSheet
