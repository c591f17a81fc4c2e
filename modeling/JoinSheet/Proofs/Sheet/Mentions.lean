import JoinSheet.Proofs.Sheet.Columns
import JoinSheet.Proofs.Sheet.Resolution
import Mathlib.Logic.Relation

/-!
# Columns that a formula mentions

A formula depends on the extra columns only through the names that it mentions. Two sheets with the
same tables and the same page may have other extra columns besides, and the ones that are mentioned
in other places: what the formula evaluates to and what it asks of a database is the same.

## Main definitions

* `Sheet.Mentions` — the names of columns in a formula.
* `Sheet.SameExtra` — two sheets have the same extra column of a name.
* `Sheet.Alters` — a change that leaves the columns of some names alone.
* `Sheet.EvaluatesAlike` — a formula cannot tell two sheets apart.

## Main statements

* `Sheet.valueToken_eq_of_sameExtra` — an evaluation sees only the columns that are mentioned.
* `Sheet.Alters.keeps` — a change leaves them alone.
* `Sheet.Reachable.evaluatesAlike` — evaluations on two sheets, and after any changes of one.
-/

namespace JoinSheet

open JoinSheet.Action

namespace Sheet

variable {s s' s'' : Sheet} {connection : Option Dialect} {formula name : Text}
  {mentioned : Text → Prop}

/-! ## Names in a formula -/

/-- A reference in the formula is to a column of this name. -/
def Mentions (s : Sheet) (formula name : Text) : Prop :=
  ∃ tokens r, s.scan formula = .ok tokens ∧ Token.Refers tokens r ∧ r.column = name

instance (s : Sheet) (formula : Text) {P : Text → Prop} [DecidablePred P] :
    Decidable (∀ name, s.Mentions formula name → P name) :=
  decidable_of_iff (∀ tokens, s.scan formula = .ok tokens → ∀ r, Token.Refers tokens r → P r.column)
    ⟨fun h _ ⟨tokens, r, scanned, refers, same⟩ => same ▸ h tokens scanned r refers,
      fun h tokens scanned r refers => h r.column ⟨tokens, r, scanned, refers, rfl⟩⟩

/-- Both sheets have an extra column of the name and the columns have the same cells, or neither
sheet has one. -/
inductive SameExtra (s s' : Sheet) (name : Text) : Prop where
  | both {c c' : ExtraColumn} (mem : c ∈ s.extras) (mem' : c' ∈ s'.extras) (named : c.name = name)
    (named' : c'.name = name) (cells : c'.cells = c.cells)
  | neither (unused : s.Unused name) (unused' : s'.Unused name)

theorem SameExtra.of_mem_iff (h : ∀ c, c.name = name → (c ∈ s'.extras ↔ c ∈ s.extras)) :
    s.SameExtra s' name := by
  by_cases used : ∃ c ∈ s.extras, c.name = name
  · obtain ⟨c, mem, named⟩ := used
    exact .both mem ((h c named).2 mem) named named rfl
  · push Not at used
    exact .neither used fun c mem named => used c ((h c named).1 mem) named

/-! ## What a formula sees -/

theorem Unused.findIdx?_eq_none (h : s.Unused name) :
    s.extras.findIdx? (fun c => c.name == name) = none :=
  List.findIdx?_eq_none_iff.2 fun c mem => by simpa using h c mem

/-- A reference to a column that is the same on both sheets denotes alike. Extra columns may be in
different places. -/
theorem SameExtra.alike {r : Reference} (same : s.SameExtra s' r.column) (tables : SameTables s s')
    (distinct : s.Distinct) (distinct' : s'.Distinct) :
    Alike s s' r (s.resolveColumn r.column) (s'.resolveColumn r.column) := by
  obtain ⟨path, page⟩ := tables
  have columns : s'.columns = s.columns := by rw [Sheet.columns, Sheet.columns, page]
  unfold resolveColumn
  split
  next plain parts =>
    obtain rfl := Text.eq_of_split_eq_singleton parts
    unfold resolvePlain
    rw [columns]
    split
    next j column _ => exact .database j column
    next =>
      cases same with
      | both mem mem' named named' cells =>
        obtain ⟨i, found, there⟩ := distinct.exists_findIdx? mem
        obtain ⟨i', found', there'⟩ := distinct'.exists_findIdx? mem'
        rw [named] at found
        rw [named'] at found'
        rw [found, found']
        refine .extra fun row _ => ?_
        rw [shown, shown, there, there', Option.bind_some, Option.bind_some, cells]
      | neither unused unused' =>
        rw [unused.findIdx?_eq_none, unused'.findIdx?_eq_none]
        exact .error _
  next schema table column _ =>
    unfold resolveQualified
    rw [columns, path]
    split
    · exact .error _
    · split
      next j c _ => exact .database j c
      next => exact .error _
  next => exact .error _

/-- An evaluation sees of the extra columns only those that are mentioned. -/
theorem valueToken_eq_of_sameExtra (tables : SameTables s s')
    (marker : s'.settings.marker = s.settings.marker) (distinct : s.Distinct)
    (distinct' : s'.Distinct) (same : ∀ name, s.Mentions formula name → s.SameExtra s' name) :
    s'.valueToken connection formula = s.valueToken connection formula := by
  have scanned : s'.scan formula = s.scan formula := by rw [scan, scan, marker]
  unfold valueToken
  rw [scanned]
  cases spelled : s.scan formula with
  | error e => rfl
  | ok tokens =>
    have alike : s.AgreesOn (Token.Refers tokens) s' := by
      refine ⟨tables.1, tables.2, fun r refers => ?_⟩
      exact (same r.column ⟨tokens, r, spelled, refers, rfl⟩).alike tables distinct distinct'
    rw [liftM_ok_bind, liftM_ok_bind, Scope.evaluate_eq_of_agreesOn alike]

/-! ## Changes of other columns -/

/-- A command adds, renames, writes or removes an extra column, or the columns are put in another
order. No name of a column that changes is mentioned, neither before nor after it. -/
inductive Alters (mentioned : Text → Prop) (s : Sheet) : Sheet → Prop where
  | command {connection : Option Dialect} {command : Command} {names : List Text} {s' : Sheet}
    (becomes : s.Becomes connection command s') (touched : command.touched s = some names)
    (outside : ∀ name ∈ names, ¬mentioned name) : Alters mentioned s s'
  | reorder {columns : List ExtraColumn} (same : columns.Perm s.extras) :
    Alters mentioned s { s with extras := columns }

/-- The sheets have the same tables and settings, and the same columns of the names mentioned. -/
structure Keeps (mentioned : Text → Prop) (s s' : Sheet) : Prop where
  tables : SameTables s s'
  settings : s'.settings = s.settings
  distinct : s.Distinct → s'.Distinct
  mem_iff : ∀ c, mentioned c.name → (c ∈ s'.extras ↔ c ∈ s.extras)

theorem Keeps.trans (h : s.Keeps mentioned s') (h' : s'.Keeps mentioned s'') :
    s.Keeps mentioned s'' where
  tables := h.tables.trans h'.tables
  settings := h'.settings.trans h.settings
  distinct := h'.distinct ∘ h.distinct
  mem_iff c hc := (h'.mem_iff c hc).trans (h.mem_iff c hc)

theorem Alters.keeps (h : s.Alters mentioned s') : s.Keeps mentioned s' := by
  cases h with
  | command becomes touched outside =>
    have edited := becomes.edits touched
    refine ⟨edited.sameTables, edited.settings, becomes.distinct, fun c hc => ?_⟩
    exact edited.mem_iff fun mem => outside c.name mem hc
  | reorder same =>
    exact ⟨⟨rfl, rfl⟩, rfl, (same.map ExtraColumn.name).nodup_iff.2, fun c _ => same.mem_iff⟩

/-- Any number of changes one after the other. -/
theorem keeps_of_alters (h : Relation.ReflTransGen (Alters mentioned) s s') :
    s.Keeps mentioned s' := by
  induction h with
  | refl => exact ⟨.refl s, rfl, id, fun _ _ => Iff.rfl⟩
  | tail _ last ih => exact ih.trans last.keeps

/-! ## Evaluation on two sheets -/

/-- With databases that give the same answers, the formula has the same value or fails with the same
error on both sheets, and the same exchanges pass in the same order. -/
def EvaluatesAlike (connection : Option Dialect) (formula : Text) (s s' : Sheet) : Prop :=
  ∀ (σ σ' : Type) (server : Server σ) (d : σ) (server' : Server σ') (d' : σ'),
    SameAnswers server d server' d' →
      (s'.valueToken connection formula).result server' d' =
          (s.valueToken connection formula).result server d ∧
        (s'.valueToken connection formula).transcript server' d' =
          (s.valueToken connection formula).transcript server d

theorem evaluatesAlike_of_eq
    (h : s'.valueToken connection formula = s.valueToken connection formula) :
    EvaluatesAlike connection formula s s' := by
  intro σ σ' server d server' d' same
  have asks := s.asks_valueToken s connection formula
  rw [h]
  exact Dialogue.run_eq_of_sameAnswers (asks.mono fun _ queries => queries.2) same

/-- A formula depends on extra columns only through the names that it mentions. It is evaluated alike
on reachable sheets that agree otherwise and on the columns of these names, and on all sheets that
changes of other columns lead to. -/
theorem Reachable.evaluatesAlike (h : s.Reachable) (connection : Option Dialect) (formula : Text) :
    (∀ s' : Sheet, s'.Reachable → s'.path = s.path → s'.page = s.page →
      s'.settings.marker = s.settings.marker →
        (∀ name, s.Mentions formula name → s.SameExtra s' name) →
          EvaluatesAlike connection formula s s') ∧
    ∀ s', Relation.ReflTransGen (Alters (s.Mentions formula)) s s' →
      EvaluatesAlike connection formula s s' := by
  refine ⟨fun s' h' path page marker same => ?_, fun s' altered => ?_⟩
  · exact evaluatesAlike_of_eq
      (valueToken_eq_of_sameExtra ⟨path, page⟩ marker h.distinct h'.distinct same)
  · have kept := keeps_of_alters altered
    refine evaluatesAlike_of_eq (valueToken_eq_of_sameExtra kept.tables
      (congrArg Settings.marker kept.settings) h.distinct (kept.distinct h.distinct) ?_)
    intro name mentioned
    exact .of_mem_iff fun c named => kept.mem_iff c (named ▸ mentioned)

/-- The column `B` stands second on one sheet and first on another, which has no `A`. A formula about
`B` is evaluated alike on both, and still is when `A` is removed from the one that has it. -/
theorem evaluatesAlike_shifted :
    let blank := Sheet.ofTable ⟨"s", "t"⟩ { extraRows := 1 }
    let two := blank.afterAlone [.addColumn none, .addColumn none, .setCell 1 0 "=7"]
    let one := blank.afterAlone [.addColumn (some "B"), .setCell 0 0 "=7"]
    let rest := { two with extras := two.extras.eraseIdx 0 }
    two.Reachable ∧ one.Reachable ∧ two.extras.map ExtraColumn.name = (["A", "B"] : List Text) ∧
      one.extras.map ExtraColumn.name = (["B"] : List Text) ∧
      Relation.ReflTransGen (Alters (two.Mentions "=B1*2")) two rest ∧
      ((two.valueToken none "=B1*2").result Server.absent ()).map Token.text = .ok "14" ∧
      EvaluatesAlike none "=B1*2" two one ∧ EvaluatesAlike none "=B1*2" two rest := by
  intro blank two one rest
  have started : blank.Reachable := .start _ _
  have reachable : two.Reachable := started.afterAlone _
  have reachable' : one.Reachable := started.afterAlone _
  have path : one.path = two.path := by decide +kernel
  have page : one.page = two.page := by decide +kernel
  have marker : one.settings.marker = two.settings.marker := by decide +kernel
  have only : ∀ name, two.Mentions "=B1*2" name → name = "B" := by decide +kernel
  have same : two.SameExtra one "B" := by
    have mem : (⟨"B", [⟨some "7", "=7"⟩]⟩ : ExtraColumn) ∈ two.extras := by decide +kernel
    have mem' : (⟨"B", [⟨some "7", "=7"⟩]⟩ : ExtraColumn) ∈ one.extras := by decide +kernel
    exact .both mem mem' rfl rfl rfl
  have altered : two.Alters (two.Mentions "=B1*2") rest := by
    have there : two.extraAt 0 = .ok ⟨"A", [{}]⟩ := by decide +kernel
    have deleted : two.deleteColumn 0 = .ok (rest, ⟨"A", [{}]⟩) := by
      rw [Sheet.deleteColumn, there]
      rfl
    have becomes : two.Becomes none (.deleteColumn 0) rest := .deleteColumn deleted
    have touched : Command.touched two (.deleteColumn 0) = some (["A"] : List Text) := by
      decide +kernel
    refine .command becomes touched fun name mem mentioned => ?_
    rw [List.mem_singleton.1 mem] at mentioned
    exact absurd (only _ mentioned) (by decide)
  obtain ⟨across, along⟩ := Reachable.evaluatesAlike reachable none "=B1*2"
  refine ⟨reachable, reachable', by decide +kernel, by decide +kernel, .single altered,
    by decide +kernel, across one reachable' path page marker fun name mentioned => ?_,
    along rest (.single altered)⟩
  rw [only name mentioned]
  exact same

end Sheet

end JoinSheet
