import JoinSheet.Proofs.Database.Transcript
import JoinSheet.Proofs.Sheet.Tables

/-!
# Loading a page

Loading is fetching a page and then evaluating the formulas on it, which leaves the page as it is.
For a page the columns of the tables are asked for where the catalog does not know them, and then the
one statement is sent whose rows the page holds.

## Main definitions

* `Sheet.fetchPage` — the page that a load shows.
* `Reading` — a query and its answer.
* `Page.IsAnswer` — a page holds the rows of a statement that reads its columns.

## Main statements

* `Sheet.loadRows_eq` — loading in two steps.
* `Sheet.findSome?_of_leadsBy_fetchPage` — what is sent for a page.
-/

namespace JoinSheet

variable {α β : Type} {c c' : Catalog} {log : List Exchange}

/-! ## Steps of an action on the catalog -/

theorem leadsBy_liftM_bind {e : Except Error α} {f : α → CatalogAction β} {y : β} :
    LeadsBy ((liftM e : CatalogAction α) >>= f) c log y c' ↔
      ∃ x, e = .ok x ∧ LeadsBy (f x) c log y c' :=
  leadsBy_except_bind

theorem leadsBy_mapM_liftM {f : α → Except Error β} {l : List α} {ys : List β}
    (h : LeadsBy (l.mapM fun i => (liftM (f i) : CatalogAction β)) c log ys c') :
    l.mapM f = .ok ys ∧ log = [] ∧ c = c' :=
  leadsBy_mapM_except h

theorem leadsBy_liftM {a : Action α} {x : α} :
    LeadsBy (liftM a : CatalogAction α) c log x c' ↔ a.Follows log x ∧ c = c' :=
  leadsBy_action

/-! ## What the catalog asks for -/

namespace Catalog

theorem asksOnly_columns (t : TableName) : AsksOnly (fun r => ¬r.isStatement) (columns t) := by
  refine AsksOnly.bind (fun c => ?_) fun known => ?_
  · rw [run_entry]
    trivial
  · split
    · exact asksOnly_pure _
    · refine AsksOnly.bind (fun c => ?_) fun loaded => AsksOnly.bind (fun c => trivial) fun _ => ?_
      · exact ⟨Bool.false_ne_true, fun _ => trivial⟩
      · exact asksOnly_pure _

theorem asksOnly_primaryKey (t : TableName) : AsksOnly (fun r => ¬r.isStatement) (primaryKey t) :=
  (asksOnly_columns t).bind fun _ => asksOnly_pure _

end Catalog

/-! ## The statement of a page -/

/-- A query and its answer. -/
structure Reading where
  sql : Text
  params : Params
  answer : Except Error (List Row)

/-- The query that an exchange is, if it is one. -/
def Exchange.reading? : Exchange → Option Reading
  | ⟨.query sql params, answer⟩ => some ⟨sql, params, answer⟩
  | _ => none

theorem Exchange.reading?_eq_none {x : Exchange} (h : ¬x.request.isStatement) :
    x.reading? = none := by
  obtain ⟨request, answer⟩ := x
  cases request with
  | query => exact absurd rfl h
  | _ => rfl

theorem findSome?_reading?_eq_none {d : Dialogue α} {a : α}
    (asks : d.Asks fun r => ¬r.isStatement) (h : d.Follows log a) :
    log.findSome? Exchange.reading? = none :=
  List.findSome?_eq_none_iff.2 fun x mem => Exchange.reading?_eq_none (h.forall_request asks x mem)

/-- The page holds the rows of a statement that reads the columns of the page, each as text, from
where the page comes from. -/
structure Page.IsAnswer (page : Page) (reading : Reading) : Prop where
  exists_projection : ∃ projection,
    List.Forall₂ (fun c q => Projection.read c.qualified (some "text") none = .ok q) page.columns
      projection ∧ page.window.renderPage projection = .ok reading.sql
  exists_limit : ∃ limit, reading.params = .page limit page.offset
  answer_eq : reading.answer = .ok page.rows

namespace Sheet

theorem asksOnly_layout (s : Sheet) : AsksOnly (fun r => ¬r.isStatement) s.layout :=
  (asksOnly_mapM (fun t => (Catalog.asksOnly_columns t).bind fun _ => asksOnly_pure _) _).bind
    fun _ => asksOnly_pure _

/-- The page that a load shows. -/
def fetchPage (s : Sheet) (limit offset : Nat) : CatalogAction Page := do
  let columns ← s.layout
  let primaryKey ← Catalog.primaryKey s.path.base
  let window ← s.window columns primaryKey
  let projection ← columns.mapM fun c =>
    (Projection.read c.qualified (some "text") none : Except Error Projection)
  let sql ← window.renderPage projection
  let rows ← Action.query sql (.page limit offset)
  return ⟨columns, window, rows, offset⟩

/-- Loading is fetching a page, and then evaluating the formulas on it. -/
theorem loadRows_eq (s : Sheet) (dialect : Dialect) (limit offset : Nat) :
    s.loadRows dialect limit offset = (do
      let page ← s.fetchPage limit offset
      (s.setPage page).recompute (some dialect)) := by
  simp only [loadRows, fetchPage, bind_assoc, pure_bind]

/-- A sheet that has been loaded is a sheet with a page, after its formulas have been evaluated. -/
theorem exists_page_of_loadRows {s s' : Sheet} {dialect : Dialect} {limit offset : Nat}
    (h : LeadsBy (s.loadRows dialect limit offset) c log s' c') :
    ∃ page rest, ((s.setPage page).recompute (some dialect)).Follows rest s' := by
  rw [loadRows_eq] at h
  obtain ⟨page, _, _, rest, -, evaluated, -⟩ := leadsBy_bind.1 h
  exact ⟨page, rest, (leadsBy_liftM.1 evaluated).1⟩

/-- The first query that is made for a page is the statement whose rows the page holds. -/
theorem findSome?_of_leadsBy_fetchPage {s : Sheet} {limit offset : Nat} {page : Page}
    (h : LeadsBy (s.fetchPage limit offset) c log page c') (rest : List Exchange) :
    ∃ reading, (log ++ rest).findSome? Exchange.reading? = some reading ∧
      page.IsAnswer reading := by
  obtain ⟨columns, c₁, first, _, laid, keys, rfl⟩ := leadsBy_bind.1 h
  obtain ⟨primaryKey, c₂, second, _, keyed, chosen, rfl⟩ := leadsBy_bind.1 keys
  obtain ⟨window, -, projected⟩ := leadsBy_liftM_bind.1 chosen
  obtain ⟨projection, _, _, _, read, stated, rfl⟩ := leadsBy_bind.1 projected
  obtain ⟨each, rfl, rfl⟩ := leadsBy_mapM_liftM read
  obtain ⟨sql, rendered, sent⟩ := leadsBy_liftM_bind.1 stated
  obtain ⟨rows, _, _, _, queried, shown, rfl⟩ := leadsBy_bind.1 sent
  obtain ⟨answered, rfl⟩ := leadsBy_liftM.1 queried
  obtain rfl := Action.follows_ask.1 answered
  obtain ⟨rfl, rfl, rfl⟩ := leadsBy_pure.1 shown
  refine ⟨⟨sql, .page limit offset, .ok rows⟩, ?_, ⟨projection, Except.mapM_eq_ok.1 each, rendered⟩,
    ⟨limit, rfl⟩, rfl⟩
  -- What is asked before is only what the tables are like.
  rw [List.findSome?_append, List.findSome?_append,
    findSome?_reading?_eq_none (s.asksOnly_layout c) laid, Option.none_or, List.findSome?_append,
    findSome?_reading?_eq_none (Catalog.asksOnly_primaryKey _ c₁) keyed]
  rfl

end Sheet

end JoinSheet
