import JoinSheet.Proofs.Database.Transcript
import JoinSheet.Proofs.Sheet.Tables
import JoinSheet.Workbook.Basic

/-!
# What commands make of the sheet

A command either leaves the sheet as it is, or succeeds and puts another sheet in its place. Only
loading shows a page that was not shown before: whatever else a command does keeps the page or
forgets it.

## Main definitions

* `Command.choosesTables`, `Command.loads` — the commands that choose tables, and that load a page.
* `Sheet.Becomes` — the sheets that a command may put in place of a sheet.
* `Workbook.Turns` — an action leaves the sheet, or succeeds with one that satisfies a predicate.

## Main statements

* `Workbook.turns_becomes` — what a command makes of the sheet.
* `Workbook.turns_perform` — what it makes of the page.
-/

namespace JoinSheet

/-- The commands that choose the tables of a sheet, or load them. -/
def Command.choosesTables : Command → Bool
  | .setTable _ | .setJoin .. | .truncateJoins _ | .loadRows .. | .reload => true
  | _ => false

/-- The commands that load a page. -/
def Command.loads : Command → Bool
  | .loadRows .. | .reload => true
  | _ => false

/-- The sheet `s'` shows the page of `s`, or none. -/
def Sheet.PageFrom (s s' : Sheet) : Prop := s'.page = s.page ∨ s'.page = none

namespace Sheet

variable {s s' : Sheet}

/-- Choosing a join keeps the sheet, or puts a path in place that has been resolved. -/
theorem eq_or_setPath_of_setJoin {index : Nat} {id : ConstraintId} {c c' : Catalog}
    {log : List Exchange} (h : LeadsBy (s.setJoin index id) c log s' c') :
    s' = s ∨ ∃ ids path, LeadsBy (JoinPath.resolve s.path.base ids) c log path c' ∧
      s' = s.setPath path := by
  unfold setJoin at h
  dsimp only at h
  -- The check comes before the second condition, which `split` would take first.
  by_cases gap : index > s.path.links.length
  · rw [if_pos gap] at h
    exact absurd h not_leadsBy_throw_bind
  rw [if_neg gap] at h
  split at h
  · obtain ⟨-, same, -⟩ := leadsBy_pure.1 h
    exact .inl same.symm
  · obtain ⟨path, _, first, _, resolved, last, rfl⟩ := leadsBy_bind.1 h
    obtain ⟨rfl, rfl, rfl⟩ := leadsBy_pure.1 last
    rw [List.append_nil]
    exact .inr ⟨_, path, resolved, rfl⟩

/-! ## What a command makes of a sheet -/

/-- With some connection, and with any catalog and any answers of a database, the command puts the
sheet `s'` in the place of `s`. -/
inductive Becomes (connection : Option Dialect) (s : Sheet) : Command → Sheet → Prop where
  | setTable {known : Catalog} {qualified : Text} {s' : Sheet}
      (chosen : s.setTable known qualified = .ok s') : Becomes connection s (.setTable qualified) s'
  | setJoin {index : Nat} {id : ConstraintId} {c c' : Catalog} {log : List Exchange} {s' : Sheet}
      (chosen : LeadsBy (s.setJoin index id) c log s' c') :
      Becomes connection s (.setJoin index id) s'
  | truncateJoins (n : Nat) : Becomes connection s (.truncateJoins n) (s.truncateJoins n)
  | setPreference (qualified : Text) (p : Preference) :
      Becomes connection s (.setPreference qualified p) (s.setPreference qualified p)
  | load {command : Command} {dialect : Dialect} {limit offset : Nat} {c c' : Catalog}
      {log : List Exchange} {s' : Sheet} (loads : command.loads = true)
      (connected : connection = some dialect)
      (loaded : LeadsBy (s.loadRows dialect limit offset) c log s' c') :
      Becomes connection s command s'
  | recompute {log : List Exchange} {s' : Sheet}
      (done : (s.recompute connection).Follows log s') : Becomes connection s .recompute s'
  | addColumn {name : Option Text} {s' : Sheet} (added : s.addColumn name = .ok s') :
      Becomes connection s (.addColumn name) s'
  | renameColumn {i : Nat} {name : Text} {s' : Sheet} (renamed : s.renameColumn i name = .ok s') :
      Becomes connection s (.renameColumn i name) s'
  | deleteColumn {i : Nat} {s' : Sheet} {column : ExtraColumn}
      (deleted : s.deleteColumn i = .ok (s', column)) : Becomes connection s (.deleteColumn i) s'
  | setCell {i row : Nat} {formula : Text} {log : List Exchange} {s' : Sheet} {cell : FormulaCell}
      (written : (s.setCell connection i row formula).Follows log (s', cell)) :
      Becomes connection s (.setCell i row formula) s'
  | fillDown {i row : Nat} {formula : Text} {log : List Exchange} {s' : Sheet} {count : Nat}
      (filled : (s.fillDown connection i row formula).Follows log (s', count)) :
      Becomes connection s (.fillDown i row formula) s'

/-- A command that does not choose the tables keeps the path and the page. -/
theorem Becomes.sameTables {connection : Option Dialect} {command : Command}
    (h : s.Becomes connection command s') (still : command.choosesTables = false) :
    SameTables s s' := by
  cases h with
  | setTable | setJoin | truncateJoins => cases still
  | setPreference => exact ⟨rfl, rfl⟩
  | @load command _ _ _ _ _ _ _ loads =>
    cases command with
    | loadRows | reload => cases still
    | _ => cases loads
  | recompute done => exact done.of_yields (s.yields_recompute connection)
  | addColumn added => exact sameTables_addColumn added
  | renameColumn renamed => exact sameTables_renameColumn renamed
  | deleteColumn deleted => exact sameTables_deleteColumn deleted
  | setCell written => exact written.of_yields (s.yields_setCell ..)
  | fillDown filled => exact filled.of_yields (s.yields_fillDown ..)

/-- A command that does not load keeps the path and the page, or forgets the page. -/
theorem Becomes.sameTables_or {connection : Option Dialect} {command : Command}
    (h : s.Becomes connection command s') (still : command.loads = false) :
    SameTables s s' ∨ s'.page = none := by
  cases chooses : command.choosesTables with
  | false => exact .inl (h.sameTables chooses)
  | true =>
    cases h with
    | setTable chosen =>
      obtain ⟨t, _, chosen⟩ := Except.bind_eq_ok.1 chosen
      cases chosen
      split
      · exact .inl (.refl s)
      · exact .inr rfl
    | setJoin chosen =>
      obtain rfl | ⟨_, path, -, rfl⟩ := eq_or_setPath_of_setJoin chosen
      · exact .inl (.refl _)
      · exact .inr rfl
    | truncateJoins n =>
      unfold Sheet.truncateJoins
      split
      · exact .inl (.refl s)
      · exact .inr rfl
    | load loads =>
      rw [loads] at still
      cases still
    | _ => cases chooses

/-- A command that does not load shows no other page. -/
theorem Becomes.pageFrom {connection : Option Dialect} {command : Command}
    (h : s.Becomes connection command s') (still : command.loads = false) : s.PageFrom s' :=
  (h.sameTables_or still).imp_left And.right

end Sheet

namespace Workbook

variable {α β : Type} {w : Workbook} {connection : Option Dialect}

/-! ## Steps of an action -/

section Steps

variable {e : Except Error α} {a : Action α} {f : α → WorkbookAction β}

theorem run_getSheet_bind {f : Sheet → WorkbookAction α} :
    (getSheet >>= f).run.run w = (f w.sheet).run.run w := rfl

theorem run_liftM_bind : ((liftM e : WorkbookAction α) >>= f).run.run w =
    match e with
    | .ok x => (f x).run.run w
    | .error error => .done (.error error, w) := by
  cases e <;> rfl

theorem run_action_bind : ((liftM a : WorkbookAction α) >>= f).run.run w =
    a.run >>= fun r =>
      match r with
      | .ok x => (f x).run.run w
      | .error error => .done (.error error, w) := by
  rw [ExceptT.run_bind, StateT.run_bind]
  change ((StateT.lift a.run : StateT Workbook Dialogue _).run w >>= _) = _
  rw [StateT.run_lift, bind_assoc]
  refine bind_congr fun r => ?_
  cases r <;> rfl

theorem run_onCatalog_bind {a : CatalogAction α} : (onCatalog a >>= f).run.run w =
    a.run.run w.catalog >>= fun r =>
      match r.1 with
      | .ok x => (f x).run.run { w with catalog := r.2 }
      | .error error => .done (.error error, { w with catalog := r.2 }) := by
  rw [ExceptT.run_bind, StateT.run_bind]
  change ((a.run.run w.catalog >>= fun r => _) >>= _) = _
  rw [bind_assoc]
  refine bind_congr fun r => ?_
  obtain ⟨r, c⟩ := r
  cases r <;> rfl

end Steps

/-! ## Parts of commands -/

/-- Whatever the answers are, the action leaves the sheet `s` in the workbook, or succeeds and puts
a sheet in its place that satisfies `Q`. -/
def Turns (s : Sheet) (Q : Sheet → Prop) (a : WorkbookAction α) (w : Workbook) : Prop :=
  Leads a w fun r w' => w'.sheet = s ∨ (∃ x, r = .ok x) ∧ Q w'.sheet

section Turns

variable {s : Sheet} {Q : Sheet → Prop}

theorem turns_except (h : w.sheet = s) (e : Except Error α) : Turns s Q (liftM e) w :=
  leads_except (.inl h)

theorem turns_except_bind (h : w.sheet = s) {e : Except Error α} {f : α → WorkbookAction β}
    (later : ∀ x, e = .ok x → Turns s Q (f x) w) : Turns s Q (liftM e >>= f) w :=
  leads_except_bind (fun _ _ => .inl h) later

theorem turns_action (h : w.sheet = s) (a : Action α) : Turns s Q (liftM a) w :=
  leads_action a.yields_true (fun _ => .inl h) fun _ _ => .inl h

theorem turns_action_bind (h : w.sheet = s) {a : Action α} {post : α → Prop} (ha : a.Yields post)
    {f : α → WorkbookAction β} (later : ∀ x, post x → Turns s Q (f x) w) :
    Turns s Q (liftM a >>= f) w :=
  leads_action_bind ha (fun _ => .inl h) later

theorem turns_onCatalog (h : w.sheet = s) (a : CatalogAction α) : Turns s Q (onCatalog a) w :=
  Dialogue.always_bind.2 (Dialogue.always_of_forall _ fun _ => .inl h)

theorem turns_onCatalog_bind (h : w.sheet = s) {a : CatalogAction α} {post : α → Prop}
    (ha : ∀ c, Leads a c fun r _ => ∀ x, r = .ok x → post x) {f : α → WorkbookAction β}
    (later : ∀ x w', w'.sheet = s → post x → Turns s Q (f x) w') :
    Turns s Q (onCatalog a >>= f) w := by
  have led : Leads (onCatalog a) w fun r w' => w'.sheet = s ∧ ∀ x, r = .ok x → post x :=
    Dialogue.always_bind.2 (Dialogue.Always.mono (ha w.catalog) fun _ hx => ⟨h, hx⟩)
  exact led.bind (fun _ _ kept => .inl kept.1) fun x w' kept => later x w' kept.1 (kept.2 x rfl)

theorem turns_get_bind {f : Workbook → WorkbookAction α} (later : Turns s Q (f w) w) :
    Turns s Q (get >>= f) w := later

theorem turns_getSheet_bind {f : Sheet → WorkbookAction α} (later : Turns s Q (f w.sheet) w) :
    Turns s Q (getSheet >>= f) w := later

theorem turns_setSheet {s' : Sheet} (h : Q s') : Turns s Q (setSheet s') w :=
  .inr ⟨⟨(), rfl⟩, h⟩

theorem turns_setSheet_pure {s' : Sheet} (h : Q s') (x : α) :
    Turns s Q (setSheet s' >>= fun _ => pure x) w :=
  .inr ⟨⟨x, rfl⟩, h⟩

theorem turns_required_bind (h : w.sheet = s) {f : Dialect → WorkbookAction α}
    (later : ∀ dialect, Turns s Q (f dialect) w) :
    Turns s Q (liftM (required connection) >>= f) w :=
  turns_except_bind h fun dialect _ => later dialect

end Turns

theorem eq_some_of_required {dialect : Dialect} (h : required connection = .ok dialect) :
    connection = some dialect := by
  cases connection with
  | none => cases h
  | some dialect' => exact congrArg some (Except.ok.inj h)

/-- A command leaves the sheet as it is, or succeeds and puts in its place what it makes of it. -/
theorem turns_becomes (connection : Option Dialect) (command : Command) (w : Workbook) :
    Turns w.sheet (w.sheet.Becomes connection command) (perform connection command) w := by
  have led (a : CatalogAction Sheet) (c : Catalog) : Leads a c fun r _ => ∀ s', r = .ok s' →
      ∃ c log c', LeadsBy a c log s' c' :=
    (leads_leadsBy a c).mono fun r c' h s' ok => by
      obtain ⟨log, h⟩ := h s' ok
      exact ⟨c, log, c', h⟩
  cases command with
  | listTables | contains | preference => exact .inl rfl
  | loadCatalog =>
    refine turns_required_bind rfl fun _ => ?_
    exact turns_action_bind rfl (Action.yields_true _) fun _ _ => .inl rfl
  | lookup => exact turns_get_bind (turns_except rfl _)
  | dialect => exact turns_except rfl _
  | resolveColumn | resolveCell => exact turns_getSheet_bind (turns_except rfl _)
  | evaluate => exact turns_getSheet_bind (turns_action rfl _)
  | columns | primaryKey | foreignKeys | foreignKey | explore =>
    exact turns_required_bind rfl fun _ => turns_onCatalog rfl _
  | availableJoins =>
    exact turns_required_bind rfl fun _ => turns_getSheet_bind (turns_onCatalog rfl _)
  | installAggregates | insertRow | updateRows | query | execute =>
    exact turns_required_bind rfl fun _ => turns_action rfl _
  | insertRows => exact turns_required_bind rfl fun _ => turns_getSheet_bind (turns_action rfl _)
  | setTable =>
    refine turns_getSheet_bind (turns_get_bind (turns_except_bind rfl fun s chosen => ?_))
    exact turns_setSheet (.setTable chosen)
  | setJoin index id =>
    refine turns_required_bind rfl fun _ => turns_getSheet_bind ?_
    refine turns_onCatalog_bind rfl (led _) fun s w' _ chosen => ?_
    obtain ⟨c, log, c', chosen⟩ := chosen
    exact turns_setSheet (.setJoin chosen)
  | truncateJoins n => exact turns_getSheet_bind (turns_setSheet (.truncateJoins n))
  | setPreference name p => exact turns_getSheet_bind (turns_setSheet (.setPreference name p))
  | loadRows | reload =>
    refine turns_except_bind rfl fun dialect connected => turns_getSheet_bind ?_
    refine turns_onCatalog_bind rfl (led _) fun s w' _ loaded => ?_
    obtain ⟨c, log, c', loaded⟩ := loaded
    exact turns_setSheet_pure (.load rfl (eq_some_of_required connected) loaded) _
  | recompute =>
    refine turns_getSheet_bind (turns_action_bind rfl (Action.yields_follows _) fun s done => ?_)
    exact turns_setSheet (.recompute done.choose_spec)
  | addColumn =>
    refine turns_getSheet_bind (turns_except_bind rfl fun s added => ?_)
    exact turns_setSheet_pure (.addColumn added) _
  | renameColumn =>
    refine turns_getSheet_bind (turns_except_bind rfl fun s renamed => ?_)
    exact turns_setSheet (.renameColumn renamed)
  | deleteColumn =>
    refine turns_getSheet_bind (turns_except_bind rfl fun s deleted => ?_)
    exact turns_setSheet_pure (.deleteColumn deleted) _
  | setCell =>
    refine turns_getSheet_bind (turns_action_bind rfl (Action.yields_follows _) fun r done => ?_)
    exact turns_setSheet_pure (.setCell done.choose_spec) _
  | fillDown =>
    refine turns_getSheet_bind (turns_action_bind rfl (Action.yields_follows _) fun r done => ?_)
    exact turns_setSheet_pure (.fillDown done.choose_spec) _

/-- After a command the sheet is as it was, or what the command makes of it. -/
theorem sheet_run_eq_or_becomes {σ : Type} (server : Server σ) (connection : Option Dialect)
    (command : Command) (w : Workbook) (d : σ) :
    (run server connection command w d).1.2.sheet = w.sheet ∨
      w.sheet.Becomes connection command (run server connection command w d).1.2.sheet :=
  ((turns_becomes connection command w).run server d).imp_right And.right

/-- A command leaves the sheet as it is, or succeeds with another one. A command that does not load
shows no other page then. -/
theorem turns_perform (connection : Option Dialect) (command : Command) (w : Workbook) :
    Turns w.sheet (fun s' => command.loads = false → w.sheet.PageFrom s')
      (perform connection command) w := by
  refine Leads.mono (turns_becomes connection command w) ?_
  rintro r w' (kept | ⟨done, becomes⟩)
  · exact .inl kept
  · exact .inr ⟨done, becomes.pageFrom⟩

end Workbook

end JoinSheet
