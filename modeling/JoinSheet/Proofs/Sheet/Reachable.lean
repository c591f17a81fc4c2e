import JoinSheet.Proofs.Workbook.Change

/-!
# Reachable sheets

A sheet starts with one table, and commands make other sheets of it. Each command may come with
another catalog and another database, and the catalog may have been loaded anew before. What holds of
the sheet at the start and is kept by what commands make of it holds of every reachable sheet.

## Main definitions

* `Sheet.Reachable` — the sheets that commands lead to.
* `Sheet.after`, `Sheet.afterAlone` — what several commands make of a sheet.

## Main statements

* `Sheet.Reachable.of_becomes` — what every command keeps holds of reachable sheets.
* `Sheet.Reachable.after` — commands make reachable sheets of reachable ones.
-/

namespace JoinSheet

namespace Sheet

/-- The sheets that start with one table, and what any commands lead to. Each command may be given
with any catalog, with or without a connection, and to any database. -/
inductive Reachable : Sheet → Prop where
  | start (base : TableName) (settings : Settings) : Reachable (Sheet.ofTable base settings)
  | command {σ : Type} {s : Sheet} (before : Reachable s) (catalog : Catalog) (server : Server σ)
      (d : σ) (connection : Option Dialect) (command : Command) :
      Reachable (Workbook.run server connection command ⟨s, catalog⟩ d).1.2.sheet

/-- The sheet after commands that are given one after the other with the catalog `c`. The database is
in the state `d` each time. -/
def after {σ : Type} (s : Sheet) (server : Server σ) (d : σ) (connection : Option Dialect)
    (c : Catalog) (commands : List Command) : Sheet :=
  commands.foldl (fun s command => (Workbook.run server connection command ⟨s, c⟩ d).1.2.sheet) s

/-- The sheet after commands that neither a catalog nor a database comes with. -/
def afterAlone (s : Sheet) (commands : List Command) : Sheet :=
  s.after Server.absent () none {} commands

theorem Reachable.after {σ : Type} {s : Sheet} (h : s.Reachable) (server : Server σ) (d : σ)
    (connection : Option Dialect) (c : Catalog) (commands : List Command) :
    (s.after server d connection c commands).Reachable := by
  induction commands generalizing s with
  | nil => exact h
  | cons command commands ih => exact ih (h.command c server d connection command)

theorem Reachable.afterAlone {s : Sheet} (h : s.Reachable) (commands : List Command) :
    (s.afterAlone commands).Reachable :=
  h.after Server.absent () none {} commands

/-- What holds at the start and is kept by every command holds of reachable sheets. -/
theorem Reachable.of_becomes {P : Sheet → Prop} {s : Sheet} (h : s.Reachable)
    (start : ∀ base settings, P (Sheet.ofTable base settings))
    (step : ∀ (s s' : Sheet) (connection : Option Dialect) (command : Command), P s →
      s.Becomes connection command s' → P s') : P s := by
  induction h with
  | start base settings => exact start base settings
  | @command σ s before catalog server d connection command ih =>
    obtain kept | becomes :=
      Workbook.sheet_run_eq_or_becomes server connection command ⟨s, catalog⟩ d
    · exact kept ▸ ih
    · exact step s _ connection command ih becomes

end Sheet

end JoinSheet
