import JoinSheet.Proofs.Evaluation.Dependence
import JoinSheet.Proofs.Formula.Moving
import JoinSheet.Proofs.Sheet.Loading
import JoinSheet.Proofs.Sheet.Resolution
import JoinSheet.Proofs.Sql.Source
import JoinSheet.Proofs.Workbook.Change
import JoinSheet.Server.Scripted

/-!
# The rows that formulas see

A formula reads cells from the loaded page, but has the database aggregate over ranges. Both are
about the same rows in the same order: an aggregate runs over the statement that the page was loaded
by, with other columns and another window of rows. This stays so whatever commands follow the load,
since the page keeps the selection that it comes from and only the next load heeds preferences.

## Main definitions

* `Workbook.History` — the workbooks that commands lead to, with what the last load has sent.
* `Page.Aggregated` — the aggregates that are asked for over the rows of a page.
* `Sheet.SeesRows` — what formulas read are the rows that a statement was answered.

## Main statements

* `Workbook.History.isAnswer` — the page is what the last load was answered.
* `Workbook.seesRows_of_history` — formulas see the rows of the last load.
-/

namespace JoinSheet

/-! ## Statements of pages -/

theorem Aggregate.statement_eq_ok {window sql : Text} {aggregates : List Aggregate}
    {criterion : Option (Criterion × Text)} {dialect : Dialect}
    (h : statement window aggregates (criterion.map Prod.fst) dialect = .ok sql) :
    sql = "SELECT " ++ Text.joined ", " (aggregates.map (render dialect)) ++ " FROM (" ++ window ++
      ") AS \"sq\"" ++ criterion.elim [] fun c => (" WHERE " : Text) ++ c.1.render := by
  unfold statement at h
  split at h
  · cases h
  · cases h
    cases criterion <;> rfl

/-- The queries for aggregates over the rows of a reference in `S`, among the rows that `source`
tells. What stands in parentheses reads columns of the page. -/
inductive Page.Aggregated (page : Page) (source : Text) (connection : Option Dialect)
    (S : Reference → Prop) : Request → Prop where
  | query {dialect : Dialect} {r : Reference} {projection : List Projection}
    {aggregates : List Aggregate} {criterion : Option (Criterion × Text)}
    (connected : connection = some dialect) (mem : S r)
    (reads : ∀ q ∈ projection, ∃ c ∈ page.columns, ∃ cast label,
      Projection.read c.qualified cast label = .ok q) :
    Aggregated page source connection S (.query
      ("SELECT " ++ Text.joined ", " (aggregates.map (Aggregate.render dialect)) ++ " FROM (" ++
        ("SELECT " ++ Text.joined ", " (projection.map Projection.render) ++ source) ++
        ") AS \"sq\"" ++ criterion.elim [] fun c => (" WHERE " : Text) ++ c.1.render)
      (.positional ((Text.ofNat (r.lastRow maxRow - r.firstRow + 1) ::
        Text.ofNat (min (page.offset + (r.firstRow - 1)) maxRow) ::
        (criterion.map Prod.snd).toList).map some)))

/-- What formulas read of the sheet `s` are the rows that `reading` tells, in the same order. Its
statement reads `projection` from `source`. -/
structure Sheet.SeesRows (s : Sheet) (page : Page) (reading : Reading)
    (projection : List Projection) (source : Text) : Prop where
  sql : reading.sql = "SELECT " ++ Text.joined ", " (projection.map Projection.render) ++ source
  selects : ∃ (base : Identifier) (joins : List Text),
    Identifier.ofTable page.window.base = .ok base ∧
    page.window.joins.mapM Join.render = .ok joins ∧
    source = " FROM " ++ base.render ++ joins.flatten ++
      Select.renderPart " WHERE " " AND " (page.window.filters.map Clause.render) ++
      Select.renderPart " ORDER BY " ", " (page.window.order.map OrderTerm.render) ++
      " LIMIT $1 OFFSET $2"
  params : ∃ limit, reading.params = .page limit page.offset
  answer : reading.answer = .ok page.rows
  /-- The statement reads the columns of the page in their order, each as text. -/
  columns : List.Forall₂ (fun c q => Projection.read c.qualified (some "text") none = .ok q)
    page.columns projection
  /-- All that an evaluation asks is aggregates over the same source. -/
  aggregates : ∀ connection formula, (s.evaluate connection formula).Asks fun request =>
    ∃ tokens, s.scan formula = .ok tokens ∧
      page.Aggregated source connection (Token.Refers tokens) request
  /-- The rows of a reference can be counted. -/
  rows : ∀ text r, Reference.read text = .ok r →
    1 ≤ r.firstRow ∧ r.firstRow ≤ r.lastRow maxRow ∧ r.lastRow maxRow ≤ maxRow
  /-- A reference to one cell of a database column reads the field of that column. -/
  cell : ∀ connection (t : Token) name row i c, t.isValue → t.isRange →
    Reference.read t.text = .ok (.cell name row) →
    s.resolveColumn name = .ok (.database i c) →
    page.columns[i]? = some c ∧ (c.column.name = name ∨ c.qualified = name) ∧
      Scope.operand ⟨s, connection⟩ t = page.rows[row - 1]?.elim
        (.error (.resolve (.rowNotLoaded row page.rows.length)))
        fun fields => .ok (Token.ofCell fields[i]?.join)

variable {s : Sheet} {page : Page} {source : Text} {connection : Option Dialect}
  {S : Reference → Prop}

/-- What references push down are aggregates over the source of the page. -/
theorem Scope.Pushes.aggregated (loaded : s.page = some page)
    (told : ({ page.window with paginate := true } : Select).renderSource = .ok source)
    {request : Request} (h : Scope.Pushes ⟨s, connection⟩ S request) :
    page.Aggregated source connection S request := by
  cases h with
  | @query dialect page' r projection aggregates criterion window sql connected loaded' mem named
      rendered stated =>
    obtain rfl : page = page' := Option.some.inj (loaded.symm.trans loaded')
    obtain ⟨-, source', told', rfl⟩ := Select.renderPage_eq_ok.1 rendered
    obtain rfl : source = source' := Except.ok.inj (told.symm.trans told')
    obtain rfl := Aggregate.statement_eq_ok stated
    refine .query connected mem fun q hq => ?_
    obtain ⟨r', c, i, cast, label, _, _, target, read⟩ := named q hq
    have there := (Sheet.column_of_resolveColumn target).1
    rw [Sheet.columns, loaded] at there
    exact ⟨c, List.mem_of_getElem? there, cast, some label, read⟩

theorem Sheet.asks_evaluate (loaded : s.page = some page)
    (told : ({ page.window with paginate := true } : Select).renderSource = .ok source)
    (connection : Option Dialect) (formula : Text) :
    (s.evaluate connection formula).Asks fun request =>
      ∃ tokens, s.scan formula = .ok tokens ∧
        page.Aggregated source connection (Token.Refers tokens) request := by
  refine Action.asks_liftM_bind fun tokens scanned => ?_
  refine Action.asks_bind ?_ fun _ => Action.asks_pure _
  refine Dialogue.Asks.mono (Scope.asks_evaluate ⟨s, connection⟩ tokens) fun request pushed => ?_
  exact ⟨tokens, scanned, pushed.aggregated loaded told⟩

theorem Sheet.operand_eq (loaded : s.page = some page) {t : Token} {name : Text} {row i : Nat}
    {c : SheetColumn} (value : t.isValue) (range : t.isRange)
    (read : Reference.read t.text = .ok (.cell name row))
    (target : s.resolveColumn name = .ok (.database i c)) :
    Scope.operand ⟨s, connection⟩ t = page.rows[row - 1]?.elim
      (.error (.resolve (.rowNotLoaded row page.rows.length)))
      fun fields => .ok (Token.ofCell fields[i]?.join) := by
  obtain ⟨k, rfl⟩ : ∃ k, row = k + 1 := Nat.exists_eq_add_of_le' (Reference.rows_of_read read).1
  have cell : s.resolveCell name (k + 1) = page.rows[k]?.elim
      (.error (.resolve (.rowNotLoaded (k + 1) page.rows.length)))
      fun fields => .ok fields[i]?.join := by
    have rows : s.rows = page.rows := by rw [Sheet.rows, loaded, Option.elim_some]
    unfold Sheet.resolveCell
    simp only [target, Except.ok_bind, rows]
    cases page.rows[k]? <;> rfl
  unfold Scope.operand
  rw [value, range, read]
  simp only [Bool.not_true, Bool.false_eq_true, if_false, Except.ok_bind, cell]
  rw [Nat.add_sub_cancel]
  cases page.rows[k]? <;> rfl

/-- Formulas see the rows of the statement that the page is the answer of. -/
theorem Page.IsAnswer.seesRows {reading : Reading} (h : page.IsAnswer reading)
    (loaded : s.page = some page) :
    ∃ projection source, s.SeesRows page reading projection source := by
  obtain ⟨⟨projection, columns, rendered⟩, params, answer⟩ := h
  obtain ⟨-, source, told, sql⟩ := Select.renderPage_eq_ok.1 rendered
  obtain ⟨base, joins, named, joined, selects⟩ := Select.renderSource_eq_ok.1 told
  refine ⟨projection, source, sql, ⟨base, joins, named, joined, ?_⟩, params, answer, columns,
    s.asks_evaluate loaded told, fun text r => Reference.rows_of_read, ?_⟩
  · rw [selects, Select.narrowing]
    simp only [List.append_assoc]
    rfl
  · intro connection t name row i c value range read target
    have denoted := Sheet.column_of_resolveColumn target
    rw [Sheet.columns, loaded] at denoted
    exact ⟨denoted.1, denoted.2, s.operand_eq loaded value range read target⟩

namespace Workbook

/-! ## What a load sends -/

variable {w w' : Workbook} {log : List Exchange}

theorem leadsBy_onCatalog {α : Type} {a : CatalogAction α} {x : α}
    (h : LeadsBy (onCatalog a) w log x w') :
    ∃ c, LeadsBy a w.catalog log x c := by
  obtain ⟨⟨r, c⟩, first, _, led, ⟨rfl, ⟨⟩⟩, rfl⟩ := Dialogue.follows_bind.1 h
  exact ⟨c, by rwa [List.append_nil]⟩

theorem leadsBy_getSheet_bind {α : Type} {f : Sheet → WorkbookAction α} {x : α} :
    LeadsBy (getSheet >>= f) w log x w' ↔ LeadsBy (f w.sheet) w log x w' := Iff.rfl

/-- What is sent in a load starts with what is sent for the page that is shown then. -/
theorem exists_of_leadsBy_load (limit offset : Sheet → Nat) {n : Nat}
    (h : LeadsBy (do
      let dialect ← required connection
      let sheet ← getSheet
      putLoaded (← onCatalog (sheet.loadRows dialect (limit sheet) (offset sheet))) :
        WorkbookAction Nat) w log n w') :
    ∃ reading, log.findSome? Exchange.reading? = some reading ∧
      ∃ page, w'.sheet.page = some page ∧ page.IsAnswer reading := by
  obtain ⟨dialect, -, given⟩ := leadsBy_except_bind.1 h
  obtain ⟨s, w₁, first, _, loading, ⟨rfl, ⟨⟩⟩, rfl⟩ :=
    leadsBy_bind.1 (leadsBy_getSheet_bind.1 given)
  obtain ⟨c, loading⟩ := leadsBy_onCatalog loading
  rw [Sheet.loadRows_eq] at loading
  obtain ⟨page, c₁, fetched, rest, fetch, evaluated, rfl⟩ := leadsBy_bind.1 loading
  obtain ⟨follows, rfl⟩ := leadsBy_liftM.1 evaluated
  have same := (Sheet.yields_recompute (w.sheet.setPage page) (some dialect)).of_follows follows
  obtain ⟨reading, first, isAnswer⟩ := Sheet.findSome?_of_leadsBy_fetchPage fetch rest
  exact ⟨reading, by rwa [List.append_nil], page, (same s rfl).2, isAnswer⟩

theorem exists_of_leadsBy_perform {command : Command} (loads : command.loads = true)
    {reply : command.Reply} (h : LeadsBy (perform connection command) w log reply w') :
    ∃ reading, log.findSome? Exchange.reading? = some reading ∧
      ∃ page, w'.sheet.page = some page ∧ page.IsAnswer reading := by
  cases command with
  | loadRows limit offset =>
    exact exists_of_leadsBy_load (fun _ => limit) (fun _ => offset) h
  | reload =>
    exact exists_of_leadsBy_load (fun s => s.settings.pageSize) Sheet.offset h
  | _ => cases loads

/-! ## The last load -/

/-- The workbooks that start with one table and any catalog, and what any commands lead to, each with
what has passed in the last load that succeeded. Commands may be given with or without a connection,
and to any database. -/
inductive History : Workbook → List Exchange → Prop where
  | start (base : TableName) (settings : Settings) (catalog : Catalog) :
      History ⟨Sheet.ofTable base settings, catalog⟩ []
  | command {σ : Type} {w : Workbook} {load : List Exchange} (before : History w load)
      (server : Server σ) (s : σ) (connection : Option Dialect) (command : Command) :
      History (run server connection command w s).1.2
        (if command.loads && (run server connection command w s).1.1.isOk then
          ((perform connection command).run.run w).transcript server s
        else load)

/-- The page is what the last load was answered, whatever has been done since. -/
theorem History.isAnswer {load : List Exchange} (h : History w load) {page : Page}
    (loaded : w.sheet.page = some page) :
    ∃ reading, load.findSome? Exchange.reading? = some reading ∧ page.IsAnswer reading := by
  induction h with
  | start => cases loaded
  | @command σ w load before server s connection command ih =>
    have turned := (turns_perform connection command w).run server s
    have followed := Dialogue.follows_transcript server ((perform connection command).run.run w) s
    unfold run at loaded ⊢
    generalize ((perform connection command).run.run w).run server s = outcome at *
    obtain ⟨⟨result, w'⟩, s'⟩ := outcome
    dsimp only at *
    by_cases last : command.loads = true ∧ result.isOk = true
    · rw [if_pos (by simpa using last)]
      obtain ⟨loads, succeeded⟩ := last
      cases result with
      | error e => cases succeeded
      | ok reply =>
        obtain ⟨reading, first, shown, there, isAnswer⟩ := exists_of_leadsBy_perform loads followed
        obtain rfl : shown = page := Option.some.inj (there.symm.trans loaded)
        exact ⟨reading, first, isAnswer⟩
    · rw [if_neg (by simpa using last)]
      -- The page that is shown now was shown before.
      refine ih ?_
      obtain same | ⟨⟨reply, rfl⟩, turned⟩ := turned
      · rwa [← same]
      · have other : command.loads = false := by simpa [Except.isOk, Except.toBool] using last
        obtain same | none := turned other
        · rwa [← same]
        · cases none.symm.trans loaded

/-- Formulas see the rows of the last load. -/
theorem seesRows_of_history {load : List Exchange} (h : History w load) {page : Page}
    (loaded : w.sheet.page = some page) :
    ∃ reading projection source, load.findSome? Exchange.reading? = some reading ∧
      w.sheet.SeesRows page reading projection source := by
  obtain ⟨reading, first, answer⟩ := h.isAnswer loaded
  obtain ⟨projection, source, sees⟩ := answer.seesRows loaded
  exact ⟨reading, projection, source, first, sees⟩

/-- Two rows are loaded from the eleventh on. They are still what is seen once a preference hides
their column, which the page does not heed. -/
theorem seesRows_of_history_hidden :
    let silent : Server Unit := fun _ s => (.error (.resolve .noConnection), s)
    ∃ w load, History w load ∧ w.sheet.rows = ([[some "3"], [some "4"]] : List (List Cell)) ∧
      (load.findSome? Exchange.reading?).map Reading.sql =
        some ("SELECT CAST(\"s\".\"t\".\"n\" AS text) FROM \"s\".\"t\"" ++
          " ORDER BY \"s\".\"t\".\"n\" ASC LIMIT $1 OFFSET $2") ∧
      (let asked := (w.sheet.evaluate (some .sqlite) "=SUM(n2:n)").transcript silent ()
      (asked.findSome? Exchange.reading?).map Reading.sql =
        some ("SELECT CAST(SUM(\"sq\".\"val\") AS text) FROM (" ++
          "SELECT CAST(\"s\".\"t\".\"n\" AS numeric) AS \"val\" FROM \"s\".\"t\"" ++
          " ORDER BY \"s\".\"t\".\"n\" ASC LIMIT $1 OFFSET $2) AS \"sq\"") ∧
      (asked.findSome? Exchange.reading?).map Reading.params =
        some (.positional [some "4294967294", some "11"])) ∧
      ∃ page, w.sheet.page = some page ∧ ∃ reading projection source,
        load.findSome? Exchange.reading? = some reading ∧
        w.sheet.SeesRows page reading projection source := by
  intro silent
  have sees {w : Workbook} {load : List Exchange} (h : History w load)
      (there : w.sheet.page.isSome) : ∃ page, w.sheet.page = some page ∧
      ∃ reading projection source, load.findSome? Exchange.reading? = some reading ∧
        w.sheet.SeesRows page reading projection source := by
    obtain ⟨page, loaded⟩ := Option.isSome_iff_exists.1 there
    exact ⟨page, loaded, seesRows_of_history h loaded⟩
  let columns : List (Text × List Column) := [("s.t", [{ name := "n", primaryKey := true }])]
  have history := ((History.start ⟨"s", "t"⟩ {} (Catalog.ofTables [⟨"s", "t"⟩])).command
    (Scripted.server ⟨[], .ofList columns, [], ∅, none⟩)
    { answers := [.rows [[some "3"], [some "4"]]] } (some .sqlite) (.loadRows 2 10)).command
    silent () none (.setPreference "s.t.n" { hide := true })
  exact ⟨_, _, history, by decide +kernel, by decide +kernel, by decide +kernel,
    sees history (by decide +kernel)⟩

end Workbook

end JoinSheet
