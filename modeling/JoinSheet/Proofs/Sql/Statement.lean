import JoinSheet.Proofs.Sql.Fragment
import Mathlib.Tactic.Tauto

/-!
# Statements are confined

No supplied text escapes its quotes in a statement, whichever builder makes it and whatever it is
made from.

## Main definitions

* `Sql.SelectionDraft`, `Sql.Draft` — all that users supply for a statement, and the statement.

## Main results

* `Sql.Draft.confined` — the statement of a draft is spelled by allowed elements.
* `Sql.Draft.scan_build` — what a reader sees of it.
-/

namespace JoinSheet.Sql

/-- A selection in the words of a user, from a table and the tables that foreign keys tie to it. -/
structure SelectionDraft where
  base : TableName
  /-- Foreign keys, each with the table that it joins. -/
  links : List (ForeignKey × TableName) := []
  fragments : SelectDraft := {}

/-- A statement in the words of a user. -/
inductive Draft where
  | select (d : SelectionDraft)
  | aggregate (window : SelectionDraft) (aggregates : List Aggregate)
    (criterion : Option Criterion) (dialect : Dialect)
  | insert (table : TableName) (values : Record) (returning : List Text)
  | update (table : TableName) (set keys : Record)

/-- The statement of a selection. -/
def SelectionDraft.build (d : SelectionDraft) : Except Error Text := do
  let selection ← d.fragments.addTo
    { base := d.base, joins := d.links.map fun link => Join.along link.1 link.2 }
  selection.render

/-- The statement of a draft. -/
def Draft.build : Draft → Except Error Text
  | select d => d.build
  | aggregate window aggregates criterion dialect => do
    Aggregate.statement (← window.build) aggregates criterion dialect
  | insert table values returning => Sql.insert table values returning
  | update table set keys => Sql.update table set keys

/-- The columns that a foreign key names, with their tables. -/
def keyColumns (key : ForeignKey) : List Text :=
  key.columnPairs.flatMap fun pair => [key.source.column pair.1, key.target.column pair.2]

/-- What a selection is supplied with. -/
def SelectionDraft.supplied (d : SelectionDraft) : Supplied where
  identifiers := d.base.toText ::
    d.links.flatMap (fun link => link.2.toText :: keyColumns link.1) ++
    d.fragments.columns.flatMap (fun c => c.column :: c.label.toList) ++
    d.fragments.filters.flatMap operandsOf ++ d.fragments.order.map Prod.fst
  operands := d.fragments.filters.flatMap operandsOf

/-- What a statement is supplied with. -/
def Draft.supplied : Draft → Supplied
  | select d => d.supplied
  | aggregate window _ _ _ => window.supplied
  | insert table values returning => ⟨table.toText :: values.keys ++ returning, []⟩
  | update table set keys => ⟨table.toText :: set.keys ++ keys.keys, []⟩

variable {supplied : Supplied} {t : Text}

/-! ## Selections -/

theorem confined_pairs {pairs : List (Text × Text)} {conditions : List Text}
    (h : pairs.mapM Join.renderPair = .ok conditions)
    (hs : ∀ pair ∈ pairs, pair.1 ∈ supplied.identifiers ∧ pair.2 ∈ supplied.identifiers) :
    ∀ condition ∈ conditions, Confined supplied condition := by
  intro condition hc
  obtain ⟨pair, hp, h⟩ := Except.exists_of_mem_mapM h hc
  obtain ⟨left, isLeft, h⟩ := Except.bind_eq_ok.1 h
  obtain ⟨right, isRight, h⟩ := Except.bind_eq_ok.1 h
  cases h
  exact ((confined_identifier isLeft (hs pair hp).1).append_word (by decide)).append
    (confined_identifier isRight (hs pair hp).2)

theorem confined_join {j : Join} (h : j.render = .ok t) (hj : j.table.toText ∈ supplied.identifiers)
    (hs : ∀ pair ∈ j.pairs, pair.1 ∈ supplied.identifiers ∧ pair.2 ∈ supplied.identifiers) :
    Confined supplied t := by
  unfold Join.render at h
  split at h
  · cases h
  · obtain ⟨conditions, hc, h⟩ := Except.bind_eq_ok.1 h
    obtain ⟨table, isTable, h⟩ := Except.bind_eq_ok.1 h
    cases h
    exact (((confined_word (by decide)).append (confined_identifier isTable hj)).append_word
      (by decide)).append (confined_joined (confined_word (by decide)) (confined_pairs hc hs))

theorem confined_part {keyword separator : String} {fragments : List Text}
    (h : ∀ fragment ∈ fragments, Confined supplied fragment)
    (hk : keyword ∈ words := by simp [words]) (hs : separator ∈ words := by simp [words]) :
    Confined supplied (Select.renderPart keyword separator fragments) := by
  unfold Select.renderPart
  split
  · exact confined_nil
  · exact (confined_word hk).append (confined_joined (confined_word hs) h)

/-- A selection of confined fragments is confined. -/
theorem confined_select {s : Select} (h : s.render = .ok t)
    (base : s.base.toText ∈ supplied.identifiers)
    (joins : ∀ j ∈ s.joins, j.table.toText ∈ supplied.identifiers ∧
      ∀ pair ∈ j.pairs, pair.1 ∈ supplied.identifiers ∧ pair.2 ∈ supplied.identifiers)
    (columns : ∀ p ∈ s.columns, Confined supplied p.render)
    (filters : ∀ c ∈ s.filters, Confined supplied c.render)
    (order : ∀ o ∈ s.order, Confined supplied o.render) : Confined supplied t := by
  unfold Select.render at h
  split at h
  · cases h
  obtain ⟨source, hs, h⟩ := Except.bind_eq_ok.1 h
  cases h
  obtain ⟨table, isTable, hs⟩ := Except.bind_eq_ok.1 hs
  obtain ⟨rendered, hr, hs⟩ := Except.bind_eq_ok.1 hs
  cases hs
  have joined : ∀ join ∈ rendered, Confined supplied join := by
    intro join hj
    obtain ⟨j, mem, h⟩ := Except.exists_of_mem_mapM hr hj
    exact confined_join h (joins j mem).1 (joins j mem).2
  have page : Confined supplied
      (if s.paginate then (" LIMIT $1 OFFSET $2" : Text) else []) := by
    split
    · exact confined_word (by decide)
    · exact confined_nil
  refine ((confined_word (by decide)).append (confined_joined (confined_word (by decide)) ?_)).append
    ((((((confined_word (by decide)).append (confined_identifier isTable base)).append
      (confined_flatten joined)).append (confined_part ?_)).append (confined_part ?_)).append page)
  · exact List.forall_mem_map.2 columns
  · exact List.forall_mem_map.2 filters
  · exact List.forall_mem_map.2 order

theorem mem_of_mem_links {d : SelectionDraft} {link : ForeignKey × TableName} {name : Text}
    (hl : link ∈ d.links) (h : name ∈ link.2.toText :: keyColumns link.1) :
    name ∈ d.supplied.identifiers := by
  have mem : name ∈ d.links.flatMap fun link => link.2.toText :: keyColumns link.1 :=
    List.mem_flatMap.2 ⟨link, hl, h⟩
  simp only [SelectionDraft.supplied, List.mem_append, List.mem_cons]
  tauto

theorem SelectionDraft.confined {d : SelectionDraft} (h : d.build = .ok t) :
    Confined d.supplied t := by
  obtain ⟨s, hs, h⟩ := Except.bind_eq_ok.1 h
  obtain ⟨columns, hc, hs⟩ := Except.bind_eq_ok.1 hs
  obtain ⟨filters, hf, hs⟩ := Except.bind_eq_ok.1 hs
  obtain ⟨order, ho, hs⟩ := Except.bind_eq_ok.1 hs
  cases hs
  refine confined_select h (by simp [supplied]) ?_ ?_ ?_ ?_
  · intro j hj
    obtain ⟨link, hl, rfl⟩ := List.mem_map.1 hj
    refine ⟨mem_of_mem_links hl List.mem_cons_self, fun pair hp => ?_⟩
    obtain ⟨⟨source, target⟩, mem, rfl⟩ := List.mem_map.1 hp
    have columns : ∀ name ∈ [link.1.source.column source, link.1.target.column target],
        name ∈ d.supplied.identifiers := fun name hn =>
      mem_of_mem_links hl (List.mem_cons_of_mem _ (List.mem_flatMap.2 ⟨(source, target), mem, hn⟩))
    exact ⟨columns _ (by simp), columns _ (by simp)⟩
  · intro p hp
    obtain ⟨c, mem, h⟩ := Except.exists_of_mem_mapM hc (by simpa using hp)
    have names : ∀ name ∈ c.column :: c.label.toList, name ∈ d.supplied.identifiers := by
      intro name hn
      have : name ∈ d.fragments.columns.flatMap fun c => c.column :: c.label.toList :=
        List.mem_flatMap.2 ⟨c, mem, hn⟩
      simp only [supplied, List.mem_append]
      tauto
    refine confined_projection h (names _ List.mem_cons_self) fun l hl => names l ?_
    exact List.mem_cons_of_mem _ (Option.mem_toList.2 hl)
  · intro c hc
    obtain ⟨condition, mem, h⟩ := Except.exists_of_mem_mapM hf (by simpa using hc)
    refine confined_condition h (fun o ho => ?_) fun o ho => List.mem_flatMap.2 ⟨condition, mem, ho⟩
    have := List.mem_flatMap.2 ⟨condition, mem, ho⟩
    simp only [supplied, List.mem_append]
    tauto
  · intro o hmem
    obtain ⟨⟨column, ascending⟩, mem, h⟩ := Except.exists_of_mem_mapM ho (by simpa using hmem)
    refine confined_orderTerm h ?_
    have := List.mem_map_of_mem (f := Prod.fst) mem
    simp only [supplied, List.mem_append]
    tauto

/-! ## Aggregates -/

theorem isSegment_of_mem_ownNames {name : Text} (h : name ∈ ownNames) : IsSegment name := by
  unfold IsSegment
  revert name
  decide

theorem confined_own {name : Text} (h : name ∈ ownNames) :
    Confined supplied (Identifier.quote name) :=
  confined_element (e := .segment name) ⟨isSegment_of_mem_ownNames h, .inl h⟩

/-- A name of a statement's own with a qualifier of its own. -/
theorem confined_qualified (qualifier name : Text) (hq : qualifier ∈ ownNames)
    (hn : name ∈ ownNames) :
    Confined supplied (Identifier.quote qualifier ++ ".".toList ++ Identifier.quote name) :=
  ((confined_own hq).append_word (by decide)).append (confined_own hn)

theorem confined_product (dialect : Dialect) : Confined supplied dialect.product := by
  cases dialect with
  | sqlite => exact confined_word (by decide)
  | postgres =>
    exact confined_qualified "db_interface" "mul" (by decide) (by decide)

theorem confined_aggregate (dialect : Dialect) (a : Aggregate) :
    Confined supplied (a.render dialect) := by
  have column : Confined supplied Aggregate.valueColumn :=
    confined_qualified "sq" Aggregate.valueName (by decide) (by decide)
  have call {opener : Text} (h : Confined supplied opener) :
      Confined supplied (opener ++ Aggregate.valueColumn ++ ")".toList) :=
    (h.append column).append_word (by decide)
  have expression : Confined supplied (a.expression dialect) := by
    cases a with
    | sum => exact call (confined_word (by decide))
    | max => exact call (confined_word (by decide))
    | min => exact call (confined_word (by decide))
    | product => exact call ((confined_product dialect).append_word (by decide))
    | count => exact call (confined_word (by decide))
    | rows => exact confined_word (by decide)
  exact ((confined_word (by decide)).append expression).append_word (by decide)

theorem confined_criterion (c : Criterion) : Confined supplied c.render := by
  have column : Confined supplied
      (Identifier.quote "sq".toList ++ ".".toList ++ Identifier.quote Aggregate.conditionName) :=
    confined_qualified "sq" Aggregate.conditionName (by decide) (by decide)
  let type : Text := if c.numeric && c.comparison ≠ .like then "numeric" else "text"
  have isType : Confined supplied type := by
    simp only [type]
    split <;> exact confined_word (by decide)
  have rendered : c.render = "CAST(".toList ++
      (Identifier.quote "sq".toList ++ ".".toList ++ Identifier.quote Aggregate.conditionName) ++
      " AS ".toList ++ type ++ ") ".toList ++ c.comparison.toText ++ " CAST($3 AS ".toList ++
      type ++ ")".toList := rfl
  rw [rendered]
  exact ((((((((confined_word (by decide)).append column).append_word (by decide)).append
    isType).append_word (by decide)).append (confined_comparison c.comparison)).append_word
      (by decide)).append isType).append_word (by decide)

theorem confined_statement {window : Text} (hw : Confined supplied window)
    {aggregates : List Aggregate} {criterion : Option Criterion} {dialect : Dialect}
    (h : Aggregate.statement window aggregates criterion dialect = .ok t) :
    Confined supplied t := by
  unfold Aggregate.statement at h
  split at h
  · cases h
  cases h
  have all : ∀ a ∈ aggregates.map (Aggregate.render dialect), Confined supplied a :=
    List.forall_mem_map.2 fun a _ => confined_aggregate dialect a
  have named : Confined supplied (") AS ".toList ++ Identifier.quote "sq".toList) :=
    (confined_word (by decide)).append (confined_own (by decide))
  refine (((((confined_word (by decide)).append (confined_joined (confined_word (by decide))
    all)).append_word (by decide)).append hw).append named).append ?_
  cases criterion with
  | none => exact confined_nil
  | some c => exact (confined_word (by decide)).append (confined_criterion c)

/-! ## Writes -/

theorem confined_columns {names written : List Text} (h : names.mapM writable = .ok written)
    (hs : ∀ name ∈ names, name ∈ supplied.identifiers) {f : Text → Text}
    (hf : ∀ name, Confined supplied (quoted name) → Confined supplied (placeholder name) →
      Confined supplied (f name)) :
    ∀ column ∈ written.map f, Confined supplied column := by
  refine List.forall_mem_map.2 fun column hc => ?_
  obtain ⟨name, hn, h⟩ := Except.exists_of_mem_mapM h hc
  exact hf column (confined_quoted h (hs name hn)) (confined_placeholder h)

theorem confined_insert {table : TableName} {values : Record} {returning : List Text}
    (h : insert table values returning = .ok t) (ht : table.toText ∈ supplied.identifiers)
    (hv : ∀ name ∈ values.keys, name ∈ supplied.identifiers)
    (hr : ∀ name ∈ returning, name ∈ supplied.identifiers) : Confined supplied t := by
  unfold insert at h
  split at h
  · cases h
  obtain ⟨names, hn, h⟩ := Except.bind_eq_ok.1 h
  obtain ⟨target, isTarget, h⟩ := Except.bind_eq_ok.1 h
  obtain ⟨returned, hret, h⟩ := Except.bind_eq_ok.1 h
  cases h
  have comma : Confined supplied ", ".toList := confined_word (by decide)
  have back : Confined supplied (if returned = [] then []
      else " RETURNING ".toList ++ Text.joined ", "
        (returned.map fun name => "CAST(".toList ++ quoted name ++ " AS text)".toList)) := by
    split
    · exact confined_nil
    · refine (confined_word (by decide)).append (confined_joined comma ?_)
      exact confined_columns hret hr fun name isQuoted _ =>
        ((confined_word (by decide)).append isQuoted).append_word (by decide)
  refine (((((((confined_word (by decide)).append (confined_identifier isTarget ht)).append_word
    (by decide)).append (confined_joined comma ?_)).append_word (by decide)).append
      (confined_joined comma ?_)).append_word (by decide)).append back
  · exact confined_columns hn hv fun _ isQuoted _ => isQuoted
  · exact confined_columns hn hv fun _ _ isPlaceholder => isPlaceholder

theorem confined_update {table : TableName} {set keys : Record} (h : update table set keys = .ok t)
    (ht : table.toText ∈ supplied.identifiers)
    (hs : ∀ name ∈ set.keys, name ∈ supplied.identifiers)
    (hk : ∀ name ∈ keys.keys, name ∈ supplied.identifiers) : Confined supplied t := by
  have assignments {names written : List Text} (h : names.mapM writable = .ok written)
      (hs : ∀ name ∈ names, name ∈ supplied.identifiers) :
      ∀ equation ∈ written.map assignment, Confined supplied equation :=
    confined_columns h hs fun _ isQuoted isPlaceholder =>
      (isQuoted.append_word (by decide)).append isPlaceholder
  unfold update at h
  split at h
  · cases h
  split at h
  · cases h
  split at h
  · cases h
  obtain ⟨target, isTarget, h⟩ := Except.bind_eq_ok.1 h
  obtain ⟨changed, hc, h⟩ := Except.bind_eq_ok.1 h
  obtain ⟨compared, hcmp, h⟩ := Except.bind_eq_ok.1 h
  cases h
  exact (((((confined_word (by decide)).append (confined_identifier isTarget ht)).append_word
    (by decide)).append (confined_joined (confined_word (by decide))
      (assignments hc hs))).append_word (by decide)).append
        (confined_joined (confined_word (by decide)) (assignments hcmp hk))

/-! ## All statements -/

/-- The statement of a draft is spelled by allowed elements. -/
theorem Draft.confined {d : Draft} (h : d.build = .ok t) : Confined d.supplied t := by
  cases d with
  | select d => exact SelectionDraft.confined h
  | aggregate window aggregates criterion dialect =>
    obtain ⟨inner, hw, h⟩ := Except.bind_eq_ok.1 h
    exact confined_statement (SelectionDraft.confined hw) h
  | insert table values returning =>
    refine confined_insert h List.mem_cons_self (fun name hn => ?_) fun name hn => ?_
    · exact List.mem_cons_of_mem _ (List.mem_append_left _ hn)
    · exact List.mem_cons_of_mem _ (List.mem_append_right _ hn)
  | update table set keys =>
    refine confined_update h List.mem_cons_self (fun name hn => ?_) fun name hn => ?_
    · exact List.mem_cons_of_mem _ (List.mem_append_left _ hn)
    · exact List.mem_cons_of_mem _ (List.mem_append_right _ hn)

/-- No supplied text escapes its quotes. A reader of a statement ends outside of quotes and sees
what allowed elements mean: segments of supplied names or names of the statement's own between
double quotes, supplied texts between single quotes, and outside of them keywords, operators,
placeholders and what constants consist of, which neither end the statement nor start a comment. -/
theorem Draft.scan_build {d : Draft} (h : d.build = .ok t) :
    ∃ elements : List Element, (∀ e ∈ elements, e.Allowed d.supplied) ∧
      elements.flatMap Element.text = t ∧ scan t = some (runsOf elements) ∧
      Harmless (runsOf elements) := by
  obtain ⟨elements, allowed, rfl⟩ := d.confined h
  exact ⟨elements, allowed, rfl, scan_flatMap_text allowed, harmless_runsOf allowed⟩

/-- A text that would end the statement stays between its quotes. -/
theorem Draft.scan_build_literal :
    (select ⟨⟨"s", "t"⟩, [], [⟨"a", none, none⟩], [.filter "a" "= ';--'"], [], false⟩).build =
      .ok "SELECT \"a\" FROM \"s\".\"t\" WHERE \"a\" = ';--'" ∧
    ∃ elements : List Element,
      (∀ e ∈ elements, e.Allowed (select ⟨⟨"s", "t"⟩, [], [⟨"a", none, none⟩],
        [.filter "a" "= ';--'"], [], false⟩).supplied) ∧
      elements.flatMap Element.text =
        ("SELECT \"a\" FROM \"s\".\"t\" WHERE \"a\" = ';--'" : Text) ∧
      scan "SELECT \"a\" FROM \"s\".\"t\" WHERE \"a\" = ';--'" = some (runsOf elements) ∧
      Harmless (runsOf elements) :=
  have built : (select ⟨⟨"s", "t"⟩, [], [⟨"a", none, none⟩], [.filter "a" "= ';--'"], [],
      false⟩).build = .ok "SELECT \"a\" FROM \"s\".\"t\" WHERE \"a\" = ';--'" := by decide +kernel
  ⟨built, Draft.scan_build built⟩

end JoinSheet.Sql
