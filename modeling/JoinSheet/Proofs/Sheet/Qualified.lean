import JoinSheet.Proofs.Sheet.Addressing
import JoinSheet.Proofs.Sheet.Page
import JoinSheet.Proofs.Sql.Binding
import JoinSheet.Proofs.Sql.Source
import JoinSheet.Proofs.Write.Atomic

/-!
# Qualified names

A qualified name is its parts with points between them, and it is taken apart at its points again:
in statements at every one, for the table that it denotes at the first, and for a column it has to
have two. So names are faithful where they have no points of their own. With such points tables are
told apart by their qualified names alone, a schema with points is not found again, and neither is a
column that has any point in its name.

## Main definitions

* `TableName.IsNamed` — the names of tables that may stand between double quotes.
* `Sql.Addresses` — the table that a statement reads or writes.

## Main statements

* `Identifier.render_ofTable_eq_iff` — which tables are told apart in statements.
* `Catalog.lookup_toText_iff` — which tables are found by their qualified names.
* `Sheet.resolveColumn_qualified_iff` — which columns are found by their qualified names.
* `names_between_layers` — all of it, with the statements that address a table.
-/

namespace JoinSheet

/-! ## Parts of a text -/

namespace Text

variable {sep : Char} {t : Text}

theorem length_split_eq_one_iff : (split sep t).length = 1 ↔ sep ∉ t := by
  constructor
  · intro one mem
    obtain ⟨part, alone⟩ := List.length_eq_one_iff.1 one
    exact split_ne_singleton mem part alone
  · intro absent
    rw [split_of_not_mem absent, List.length_singleton]

theorem length_split_pos (sep : Char) (t : Text) : 0 < (split sep t).length :=
  List.length_pos_iff.2 (split_ne_nil sep t)

end Text

/-! ## Tables in statements -/

/-- The schema and the table have names, and may stand between double quotes. -/
structure TableName.IsNamed (t : TableName) : Prop where
  schema : t.schema ≠ [] ∧ '"' ∉ t.schema
  table : t.table ≠ [] ∧ '"' ∉ t.table

namespace Identifier

variable {i j : Identifier} {t u : TableName}

theorem notMem_quote {segment : Text} (absent : '.' ∉ segment) : '.' ∉ quote segment := by
  simp [quote, absent]

theorem quote_injective : Function.Injective quote := by
  intro a b same
  simpa [quote] using same

/-- An identifier can be told from its form in a statement. -/
theorem render_eq_iff : i.render = j.render ↔ i.segments = j.segments := by
  have parts (k : Identifier) : k.render.split '.' = k.segments.map quote := by
    refine Text.split_joined (by simp [k.nonempty]) (List.forall_mem_map.2 fun segment mem => ?_)
    exact notMem_quote (k.quotable segment mem).2.2
  constructor
  · intro same
    have := congrArg (Text.split '.') same
    rw [parts, parts] at this
    exact quote_injective.list_map this
  · intro same
    rw [render, render, same]

/-- In statements, tables are told apart if their qualified names are different. -/
theorem render_ofTable_eq_iff (ht : ofTable t = .ok i) (hu : ofTable u = .ok j) :
    i.render = j.render ↔ t.toText = u.toText := by
  rw [render_eq_iff, Sql.segments_of_read ht, Sql.segments_of_read hu]
  constructor
  · intro same
    rw [← Text.joined_split '.' t.toText, same, Text.joined_split]
  · exact congrArg (Text.split '.')

/-- A table can be written in a statement unless a part of its qualified name is empty. -/
theorem exists_ofTable_iff (named : t.IsNamed) :
    (∃ i, ofTable t = .ok i) ↔ ∀ part ∈ t.toText.split '.', part ≠ [] := by
  have unquoted : '"' ∉ t.toText := by
    simp [TableName.toText, named.schema.2, named.table.2]
  rw [ofTable, exists_read_eq_ok]
  exact and_iff_right unquoted

/-- A table without points in its names is written as its schema and its name. -/
theorem exists_ofTable_of_plain (named : t.IsNamed) (schema : '.' ∉ t.schema)
    (table : '.' ∉ t.table) :
    ∃ i, ofTable t = .ok i ∧ i.render = quote t.schema ++ '.' :: quote t.table := by
  have parts : t.toText.split '.' = [t.schema, t.table] := by
    rw [TableName.toText, Text.split_append, Text.split_of_not_mem schema,
      Text.split_of_not_mem table, List.singleton_append]
  obtain ⟨i, read⟩ := (exists_ofTable_iff named).2 (by
    rw [parts]
    simp [named.schema.1, named.table.1])
  refine ⟨i, read, ?_⟩
  rw [render, Sql.segments_of_read read, parts]
  simp [Text.joined, List.intercalate, List.intersperse]

end Identifier

/-- The qualified names of tables are different if there are no points in their schemas. -/
theorem TableName.toText_inj {t u : TableName} (ht : '.' ∉ t.schema) (hu : '.' ∉ u.schema) :
    t.toText = u.toText ↔ t = u := by
  refine ⟨fun same => ?_, congrArg _⟩
  have parts := congrArg (Text.cut? '.') same
  rw [toText, toText, Text.cut?_append ht, Text.cut?_append hu] at parts
  cases t
  cases u
  simpa using parts

namespace Sql

/-- The statement starts with the keyword and the identifier of the table. -/
def Addresses (keyword : Text) (t : TableName) (statement : Text) : Prop :=
  ∃ i, Identifier.ofTable t = .ok i ∧ keyword ++ i.render <+: statement

variable {t : TableName} {text : Text}

theorem addresses_renderSource {s : Select} (h : s.renderSource = .ok text) :
    Addresses " FROM " s.base text := by
  obtain ⟨base, clauses, read, -, rfl⟩ := Select.renderSource_eq_ok.1 h
  exact ⟨base, read, (List.prefix_append _ _).trans (List.prefix_append _ _)⟩

theorem addresses_insert {values : Record} {returning : List Text}
    (h : insert t values returning = .ok text) : Addresses "INSERT INTO " t text := by
  obtain ⟨target, read, -, -, rfl⟩ := insert_eq_ok h
  refine ⟨target, read, ?_⟩
  unfold insertWith insertInto
  simp only [List.append_assoc, List.prefix_append_right_inj]
  exact List.prefix_append _ _

theorem addresses_update {set keys : Record} (h : update t set keys = .ok text) :
    Addresses "UPDATE " t text := by
  obtain ⟨target, read, -, -, -, rfl⟩ := update_eq_ok h
  refine ⟨target, read, ?_⟩
  unfold updateWith
  simp only [List.append_assoc, List.prefix_append_right_inj]
  exact List.prefix_append _ _

end Sql

/-! ## Tables of a catalog -/

namespace Catalog

variable {c : Catalog} {t : TableName}

theorem contains_of_mem_tables (h : t ∈ c.tables) : c.contains t :=
  Std.ExtTreeMap.mem_iff_contains.1 (Std.ExtTreeMap.mem_keys.1 h)

/-- A table is found by its qualified name if its schema has no points. -/
theorem lookup_toText_iff (mem : t ∈ c.tables) (schema : t.schema ≠ []) (table : t.table ≠ []) :
    c.lookup t.toText = .ok t ↔ '.' ∉ t.schema := by
  constructor
  · intro found
    obtain ⟨u, read, known⟩ := Except.bind_eq_ok.1 found
    obtain rfl : u = t := by
      split at known
      · exact Except.ok.inj known
      · cases known
    unfold TableName.read at read
    split at read
    next cut =>
      split at read
      · cases read
        exact Text.notMem_of_cut? cut
      · cases read
    · cases read
  · intro plain
    have read : TableName.read t.toText = .ok t := by
      rw [TableName.read, TableName.toText, Text.cut?_append plain]
      simp only [schema, table, ne_eq, not_false_eq_true, and_self, if_true]
    rw [lookup, read, Except.ok_bind, if_pos (contains_of_mem_tables mem)]
    rfl

end Catalog

/-! ## Columns of a sheet -/

theorem false_of_lt_firstWithIndex? {α : Type} {p : α → Bool} {l : List α} {i j : Nat} {a b : α}
    (h : firstWithIndex? p l = some (i, a)) (before : j < i) (there : l[j]? = some b) :
    p b = false := by
  obtain ⟨k, found, h⟩ := Option.bind_eq_some_iff.1 h
  obtain ⟨_, -, h⟩ := Option.map_eq_some_iff.1 h
  cases h
  obtain ⟨_, -, missed⟩ := List.findIdx?_eq_some_iff_getElem.1 found
  obtain ⟨_, rfl⟩ := List.getElem?_eq_some_iff.1 there
  simpa using missed j before

namespace SheetColumn

variable (c : SheetColumn)

/-- There is no point in a name of the column. -/
structure IsPlain : Prop where
  schema : '.' ∉ c.table.schema
  table : '.' ∉ c.table.table
  name : '.' ∉ c.column.name

theorem split_qualified : c.qualified.split '.' =
    c.table.schema.split '.' ++ (c.table.table.split '.' ++ c.column.name.split '.') := by
  rw [qualified, TableName.column, TableName.toText, Text.split_append, Text.split_append,
    List.append_assoc]

/-- A qualified name has three parts if there are no points in them. -/
theorem length_split_qualified_iff : (c.qualified.split '.').length = 3 ↔ c.IsPlain := by
  have schema := Text.length_split_pos '.' c.table.schema
  have table := Text.length_split_pos '.' c.table.table
  have name := Text.length_split_pos '.' c.column.name
  rw [split_qualified, List.length_append, List.length_append]
  constructor
  · intro three
    exact ⟨Text.length_split_eq_one_iff.1 (by omega), Text.length_split_eq_one_iff.1 (by omega),
      Text.length_split_eq_one_iff.1 (by omega)⟩
  · intro plain
    rw [Text.length_split_eq_one_iff.2 plain.schema, Text.length_split_eq_one_iff.2 plain.table,
      Text.length_split_eq_one_iff.2 plain.name]

end SheetColumn

namespace Sheet

variable {s : Sheet} {i : Nat} {c : SheetColumn}

theorem resolveColumn_qualified (plain : c.IsPlain) :
    s.resolveColumn c.qualified = s.resolveQualified c.table c.column.name := by
  rw [resolveColumn, c.split_qualified, Text.split_of_not_mem plain.schema,
    Text.split_of_not_mem plain.table, Text.split_of_not_mem plain.name]
  rfl

/-- A column is found by its qualified name if there are no points in its names, and it is the first
one with them. -/
theorem resolveColumn_qualified_iff (joined : c.table ∈ s.path.tables)
    (there : s.columns[i]? = some c) :
    s.resolveColumn c.qualified = .ok (.database i c) ↔ c.IsPlain ∧
      ∀ j < i, ∀ d, s.columns[j]? = some d → ¬(d.table = c.table ∧ d.column.name = c.column.name) := by
  have present : ¬c.table ∉ s.path.tables := not_not.2 joined
  constructor
  · intro found
    have plain : c.IsPlain := by
      rw [← c.length_split_qualified_iff]
      unfold resolveColumn at found
      split at found
      next part alone =>
        have many : (c.qualified.split '.').length ≠ 1 := by
          have := Text.length_split_pos '.' c.table.schema
          have := Text.length_split_pos '.' c.table.table
          rw [c.split_qualified, List.length_append, List.length_append]
          omega
        exact absurd (by rw [alone, List.length_singleton]) many
      next parts => rw [parts]; rfl
      next => cases found
    refine ⟨plain, fun j before d here same => ?_⟩
    rw [resolveColumn_qualified plain, resolveQualified, if_neg present] at found
    split at found
    next first =>
      cases found
      have missed := false_of_lt_firstWithIndex? first before here
      simp [same] at missed
    · cases found
  · rintro ⟨plain, first⟩
    have found := firstWithIndex?_eq_some there
      (p := fun d => d.table == c.table && d.column.name == c.column.name) (by simp)
      fun j before d here => by simpa using first j before d here
    rw [resolveColumn_qualified plain, resolveQualified, if_neg present, found]

end Sheet

/-! ## All layers -/

/-- Statements address a table by its identifier, which is that of no other table with another
qualified name. The catalog finds a table by its qualified name unless there are points in its
schema, and a sheet finds the first column of some names by its qualified name unless there are points
in any of them. -/
theorem names_between_layers :
    (∀ (c : Catalog) (t : TableName), t ∈ c.tables → t.IsNamed →
      ((∃ i, Identifier.ofTable t = .ok i) ↔ ∀ part ∈ t.toText.split '.', part ≠ []) ∧
      ('.' ∉ t.schema → '.' ∉ t.table → ∃ i, Identifier.ofTable t = .ok i ∧
        i.render = Identifier.quote t.schema ++ '.' :: Identifier.quote t.table) ∧
      (c.lookup t.toText = .ok t ↔ '.' ∉ t.schema)) ∧
    (∀ (c : Catalog) (t u : TableName), t ∈ c.tables → u ∈ c.tables → t ≠ u → t.IsNamed →
      u.IsNamed →
      (∀ i j, Identifier.ofTable t = .ok i → Identifier.ofTable u = .ok j →
        (i.render ≠ j.render ↔ t.toText ≠ u.toText)) ∧
      ('.' ∉ t.schema → '.' ∉ u.schema → t.toText ≠ u.toText)) ∧
    (∀ (s : Select) (text : Text), s.renderSource = .ok text →
      Sql.Addresses " FROM " s.base text) ∧
    (∀ (t : TableName) (values : Record) (returning : List Text) (text : Text),
      Sql.insert t values returning = .ok text → Sql.Addresses "INSERT INTO " t text) ∧
    (∀ (t : TableName) (set keys : Record) (text : Text),
      Sql.update t set keys = .ok text → Sql.Addresses "UPDATE " t text) ∧
    ∀ (s : Sheet) (i : Nat) (c : SheetColumn), s.Reachable → s.columns[i]? = some c →
      (s.resolveColumn c.qualified = .ok (.database i c) ↔ c.IsPlain ∧
        ∀ j < i, ∀ d, s.columns[j]? = some d →
          ¬(d.table = c.table ∧ d.column.name = c.column.name)) := by
  refine ⟨fun c t mem named => ⟨?_, ?_, ?_⟩, fun c t u _ _ distinct _ _ => ⟨?_, ?_⟩, ?_, ?_, ?_, ?_⟩
  · exact Identifier.exists_ofTable_iff named
  · exact Identifier.exists_ofTable_of_plain named
  · exact Catalog.lookup_toText_iff mem named.schema.1 named.table.1
  · exact fun i j hi hj => not_congr (Identifier.render_ofTable_eq_iff hi hj)
  · exact fun ht hu same => distinct ((TableName.toText_inj ht hu).1 same)
  · exact fun s text => Sql.addresses_renderSource
  · exact fun t values returning text => Sql.addresses_insert
  · exact fun t set keys text => Sql.addresses_update
  · intro s i c reachable there
    have joined := reachable.table_mem_path c (List.mem_of_getElem? there)
    exact Sheet.resolveColumn_qualified_iff joined there

/-- Two tables with points in the name of one, and a sheet that shows a column of each. -/
theorem names_between_layers_orders :
    let orders : TableName := ⟨"s", "orders"⟩
    let lines : TableName := ⟨"s", "order.lines"⟩
    let columns : List (Text × List Column) :=
      [("s.orders", [{ name := "id" }]), ("s.order.lines", [{ name := "id" }])]
    let keys : List (ConstraintId × ForeignKey) := [(7, ⟨lines, orders, ["order"], ["id"]⟩)]
    let db : Scripted := ⟨[], .ofList columns, keys, ∅, none⟩
    let c := Catalog.ofTables [orders, lines]
    let script : Script Request := { answers := [.rows [[some "3", none]]] }
    let loaded := (Sheet.ofTable orders {}).after (Scripted.server db) script (some .sqlite) c
      [.setJoin 0 7, .reload]
    loaded.Reachable ∧ loaded.columns = [⟨orders, { name := "id" }⟩, ⟨lines, { name := "id" }⟩] ∧
      c.lookup "s.order.lines" = .ok lines ∧ c.lookup "s.orders" = .ok orders ∧
      orders.toText ≠ lines.toText ∧
      loaded.resolveColumn "s.orders.id" = .ok (.database 0 ⟨orders, { name := "id" }⟩) ∧
      loaded.resolveColumn "s.order.lines.id" ≠ .ok (.database 1 ⟨lines, { name := "id" }⟩) := by
  intro orders lines columns keys db c script loaded
  have reachable : loaded.Reachable := (Sheet.Reachable.start orders {}).after _ _ _ _ _
  have shown : loaded.columns = [⟨orders, { name := "id" }⟩, ⟨lines, { name := "id" }⟩] := by
    decide +kernel
  have named (t : TableName) (h : t ∈ [orders, lines]) : t.IsNamed := by
    simp only [List.mem_cons, List.not_mem_nil, or_false] at h
    obtain rfl | rfl := h <;> exact ⟨by decide, by decide⟩
  have known : orders ∈ c.tables ∧ lines ∈ c.tables := by decide +kernel
  obtain ⟨table, tables, -, -, -, column⟩ := names_between_layers
  have found (t : TableName) (mem : t ∈ c.tables) (h : t ∈ [orders, lines])
      (plain : '.' ∉ t.schema) : c.lookup t.toText = .ok t :=
    (table c t mem (named t h)).2.2.2 plain
  refine ⟨reachable, shown, found lines known.2 (by simp) (by decide),
    found orders known.1 (by simp) (by decide), ?_, ?_, ?_⟩
  · exact (tables c orders lines known.1 known.2 (by decide) (named _ (by simp))
      (named _ (by simp))).2 (by decide) (by decide)
  · exact (column loaded 0 ⟨orders, { name := "id" }⟩ reachable (by rw [shown]; rfl)).2
      ⟨⟨by decide, by decide, by decide⟩, nofun⟩
  · intro found
    have plain := ((column loaded 1 ⟨lines, { name := "id" }⟩ reachable (by rw [shown]; rfl)).1
      found).1.table
    exact absurd plain (by decide)

/-- Two tables whose identifiers are the same, one of which the catalog finds by the name of the
other. -/
theorem names_with_points :
    let t : TableName := ⟨"a.b", "c"⟩
    let u : TableName := ⟨"a", "b.c"⟩
    let c := Catalog.ofTables [t, u]
    t ∈ c.tables ∧ u ∈ c.tables ∧ t ≠ u ∧ t.IsNamed ∧ u.IsNamed ∧
      (∃ i, Identifier.ofTable t = .ok i ∧ Identifier.ofTable u = .ok i) ∧
      c.lookup t.toText = .ok u := by
  intro t u c
  refine ⟨by decide +kernel, by decide +kernel, by decide, ⟨by decide, by decide⟩,
    ⟨by decide, by decide⟩, ?_, by decide +kernel⟩
  have parts : ∀ part ∈ t.toText.split '.', part ≠ [] := by decide
  obtain ⟨i, read⟩ := (Identifier.exists_ofTable_iff ⟨by decide, by decide⟩).2 parts
  exact ⟨i, read, read⟩

end JoinSheet
