import JoinSheet.Proofs.Catalog.Path
import JoinSheet.Proofs.Catalog.Told
import JoinSheet.Sheet.Load

/-!
# Keys that are offered

A path is offered the keys that reach a new table from one of its tables, and is extended by a key
that is found on one of its tables and reaches a new one from there. The offer starts at the base
and the search at the last table. Both come to the same keys where the database tells of every table
the keys that touch it: a key that leads off the path touches only one of its tables.

## Main definitions

* `JoinPath.pushed`, `JoinPath.offered` — the path with one more key, and the keys it is offered, of
  a set of keys.
* `JoinPath.Pushed` — the paths that pushing keys leads to.

## Main statements

* `JoinPath.brings_push`, `JoinPath.brings_available` — what is accepted and what is offered.
* `JoinPath.Pushed.available_iff_push` — exactly what is offered is accepted.
-/

namespace JoinSheet

variable {σ : Type}

/-! ## What is accepted -/

/-- The key with a number and the table at its far end, if it has the table `t` at the near one. -/
def ForeignKeys.reach? (keys : ForeignKeys) (id : ConstraintId) (t : TableName) :
    Option (ForeignKey × TableName) :=
  keys[id]?.bind fun key => (key.otherSide? t).map fun far => (key, far)

theorem ForeignKeys.reach?_eq_some {keys : ForeignKeys} {id : ConstraintId} {t far : TableName}
    {key : ForeignKey} :
    keys.reach? id t = some (key, far) ↔ keys[id]? = some key ∧ key.otherSide? t = some far := by
  simp only [reach?, Option.bind_eq_some_iff, Option.map_eq_some_iff, Prod.mk.injEq]
  constructor
  · rintro ⟨_, own, _, reaches, rfl, rfl⟩
    exact ⟨own, reaches⟩
  · rintro ⟨own, reaches⟩
    exact ⟨key, own, far, reaches, rfl, rfl⟩

namespace JoinPath

variable {server : Server σ} {keys : ForeignKeys} {c : Catalog} {p q : JoinPath} {id : ConstraintId}
  {tables : List TableName}

/-- The key that is found is the first one that leads on from one of the tables. -/
theorem brings_findKey (tells : Tells server keys) (holds : c.Holds keys)
    (known : ∀ t ∈ tables, c.contains t) : Brings server keys (findKey id tables) c
      (.ok (tables.findSome? (keys.reach? id))) := by
  induction tables generalizing c with
  | nil => exact brings_pure holds
  | cons t tables ih =>
    obtain ⟨here, rest⟩ := List.forall_mem_cons.1 known
    have looked : Brings server keys (Catalog.foreignKey? t id) c (.ok (keys.touching t)[id]?) :=
      (Catalog.brings_foreignKeys tells holds here).bind fun _ _ => brings_pure
    refine looked.bind fun c' grown holds' => ?_
    rw [List.findSome?_cons]
    cases found : (keys.touching t)[id]? with
    | none =>
      have astray : keys.reach? id t = none := by
        refine Option.eq_none_iff_forall_ne_some.2 fun ⟨key, far⟩ reach => ?_
        obtain ⟨own, reaches⟩ := ForeignKeys.reach?_eq_some.1 reach
        have touches : key.touches t := by rw [← ForeignKey.isSome_otherSide?, reaches]; rfl
        cases found.symm.trans (ForeignKeys.getElem?_touching.2 ⟨own, touches⟩)
      rw [astray]
      exact ih holds' fun u mem => Catalog.contains_of_le grown (rest u mem)
    | some key =>
      obtain ⟨own, touches⟩ := ForeignKeys.getElem?_touching.1 found
      rw [← ForeignKey.isSome_otherSide?] at touches
      obtain ⟨far, reaches⟩ := Option.isSome_iff_exists.1 touches
      rw [ForeignKeys.reach?_eq_some.2 ⟨own, reaches⟩]
      dsimp only
      rw [reaches]
      exact brings_pure holds'

/-- The path with one more of the keys there are. -/
def pushed (keys : ForeignKeys) (p : JoinPath) (id : ConstraintId) : Except Error JoinPath :=
  match p.tables.reverse.findSome? (keys.reach? id) with
  | none => .error (.graph (.keyNotAttached id))
  | some (key, far) =>
    if far ∈ p.tables then .error (.graph (.alreadyJoined far))
    else .ok (p.extend ⟨id, key, far⟩)

theorem brings_push (tells : Tells server keys) (holds : c.Holds keys)
    (known : ∀ t ∈ p.tables, c.contains t) (id : ConstraintId) :
    Brings server keys (p.push id) c (p.pushed keys id) := by
  refine (brings_findKey tells holds fun t mem => known t (List.mem_reverse.1 mem)).bind ?_
  intro c' _ holds'
  unfold pushed
  cases p.tables.reverse.findSome? (keys.reach? id) with
  | none => exact brings_throw holds'
  | some found =>
    dsimp only
    split
    · exact (brings_throw holds').bind_error
    · exact brings_pure holds'

/-- A key that leads off some tables leads off them in one way. -/
theorem eq_of_otherSide? {key : ForeignKey} {t t' far far' : TableName}
    (reaches : key.otherSide? t = some far) (reaches' : key.otherSide? t' = some far')
    (new : far ∉ tables) (mem : t' ∈ tables) : far' = far := by
  have apart : t' ≠ far := fun same => new (same ▸ mem)
  obtain ⟨source, target⟩ | ⟨source, target⟩ := ForeignKey.ends_of_otherSide? reaches <;>
    obtain ⟨source', target'⟩ | ⟨source', target'⟩ := ForeignKey.ends_of_otherSide? reaches'
  · exact source'.symm.trans source
  · exact absurd (source'.symm.trans source) apart
  · exact absurd (target'.symm.trans target) apart
  · exact target'.symm.trans target

/-- A key is accepted if it leads from a table of the path to one that is not on it. -/
theorem pushed_eq_ok : p.pushed keys id = .ok q ↔
    ∃ key far, keys[id]? = some key ∧ (∃ t ∈ p.tables, key.otherSide? t = some far) ∧
      far ∉ p.tables ∧ q = p.extend ⟨id, key, far⟩ := by
  unfold pushed
  constructor
  · intro h
    split at h
    · cases h
    next key far found =>
      split at h
      · cases h
      next new =>
        cases h
        obtain ⟨t, mem, reach⟩ := List.exists_of_findSome?_eq_some found
        obtain ⟨own, reaches⟩ := ForeignKeys.reach?_eq_some.1 reach
        exact ⟨key, far, own, ⟨t, List.mem_reverse.1 mem, reaches⟩, new, rfl⟩
  · rintro ⟨key, far, own, ⟨t, mem, reaches⟩, new, rfl⟩
    have reach : keys.reach? id t = some (key, far) := ForeignKeys.reach?_eq_some.2 ⟨own, reaches⟩
    cases found : p.tables.reverse.findSome? (keys.reach? id) with
    | none =>
      have astray := List.findSome?_eq_none_iff.1 found t (List.mem_reverse.2 mem)
      cases astray.symm.trans reach
    | some first =>
      -- The key is found on the last table that it touches, which is the only one.
      obtain ⟨key', far'⟩ := first
      obtain ⟨t', mem', reach'⟩ := List.exists_of_findSome?_eq_some found
      obtain ⟨own', reaches'⟩ := ForeignKeys.reach?_eq_some.1 reach'
      obtain rfl : key = key' := Option.some.inj (own.symm.trans own')
      obtain rfl := eq_of_otherSide? reaches reaches' new (List.mem_reverse.1 mem')
      exact if_neg new

/-! ## What is offered -/

/-- The entries are the keys of which `Q` holds, each of them once. -/
structure Offers (keys : ForeignKeys) (Q : ConstraintId → ForeignKey → Prop)
    (found : List (ConstraintId × ForeignKey)) : Prop where
  nodup : (found.map Prod.fst).Nodup
  mem_iff : ∀ id key, (id, key) ∈ found ↔ keys[id]? = some key ∧ Q id key

/-- The keys found with those of a table that reach a new one. -/
def offerFrom (p : JoinPath) (t : TableName) (found : List (ConstraintId × ForeignKey)) :
    List (ConstraintId × ForeignKey) → List (ConstraintId × ForeignKey) :=
  List.foldl (fun found (id, key) =>
    if p.reachesNew t key && !found.any (·.1 == id) then found ++ [(id, key)] else found) found

/-- The keys that are offered, of the keys there are. -/
def offered (keys : ForeignKeys) (p : JoinPath) : List (ConstraintId × ForeignKey) :=
  p.tables.foldl (fun found t => p.offerFrom t found (keys.touching t).toList) []

theorem Offers.congr {Q Q' : ConstraintId → ForeignKey → Prop}
    {found : List (ConstraintId × ForeignKey)} (h : Offers keys Q found)
    (same : ∀ id key, keys[id]? = some key → (Q id key ↔ Q' id key)) : Offers keys Q' found :=
  ⟨h.nodup, fun id key => (h.mem_iff id key).trans (and_congr_right (same id key))⟩

/-- One more key is offered if it reaches a new table, unless it is offered already. -/
theorem Offers.step {Q : ConstraintId → ForeignKey → Prop}
    {found : List (ConstraintId × ForeignKey)} {key : ForeignKey} (h : Offers keys Q found)
    (own : keys[id]? = some key) (t : TableName) :
    Offers keys (fun id' key' => Q id' key' ∨ (id', key') = (id, key) ∧ p.reachesNew t key')
      (if p.reachesNew t key && !found.any (·.1 == id) then found ++ [(id, key)] else found) := by
  by_cases adds : (p.reachesNew t key && !found.any (·.1 == id)) = true
  · rw [if_pos adds]
    obtain ⟨reaches, unseen⟩ := Bool.and_eq_true_iff.1 adds
    have fresh : id ∉ found.map Prod.fst := by
      intro mem
      obtain ⟨entry, there, rfl⟩ := List.mem_map.1 mem
      have seen : found.any (·.1 == entry.1) = true := List.any_eq_true.2 ⟨entry, there, by simp⟩
      simp [seen] at unseen
    constructor
    · rw [List.map_append, List.map_singleton, ← List.concat_eq_append]
      exact h.nodup.concat fresh
    · intro id' key'
      rw [List.mem_append, h.mem_iff, List.mem_singleton]
      constructor
      · rintro (⟨own', offered⟩ | same)
        · exact ⟨own', .inl offered⟩
        · cases same
          exact ⟨own, .inr ⟨rfl, reaches⟩⟩
      · rintro ⟨own', offered | ⟨same, -⟩⟩
        · exact .inl ⟨own', offered⟩
        · exact .inr same
  · rw [if_neg adds]
    refine h.congr fun id' key' _ => ⟨.inl, ?_⟩
    rintro (offered | ⟨same, reaches⟩)
    · exact offered
    · -- The number has been seen, with the one key that it stands for.
      cases same
      have seen : found.any (·.1 == id) = true := by simpa [reaches] using adds
      obtain ⟨⟨_, key⟩, mem, same⟩ := List.any_eq_true.1 seen
      obtain rfl := beq_iff_eq.1 same
      obtain ⟨own', offered⟩ := (h.mem_iff _ key).1 mem
      exact Option.some.inj (own'.symm.trans own) ▸ offered

theorem offers_offerFrom {Q : ConstraintId → ForeignKey → Prop}
    {found entries : List (ConstraintId × ForeignKey)} (h : Offers keys Q found)
    (own : ∀ entry ∈ entries, keys[entry.1]? = some entry.2) (t : TableName) :
    Offers keys (fun id key => Q id key ∨ (id, key) ∈ entries ∧ p.reachesNew t key)
      (p.offerFrom t found entries) := by
  induction entries generalizing Q found with
  | nil => exact h.congr (by simp)
  | cons entry entries ih =>
    obtain ⟨here, rest⟩ := List.forall_mem_cons.1 own
    refine (ih (h.step here t) rest).congr fun id key _ => ?_
    rw [List.mem_cons]
    tauto

theorem reachesNew_iff {t : TableName} {key : ForeignKey} :
    p.reachesNew t key ↔ ∃ far, key.otherSide? t = some far ∧ far ∉ p.tables := by
  simp [reachesNew, Option.any_eq_true]

theorem touches_of_reachesNew {t : TableName} {key : ForeignKey} (h : p.reachesNew t key) :
    key.touches t := by
  obtain ⟨far, reaches, -⟩ := reachesNew_iff.1 h
  rw [← ForeignKey.isSome_otherSide?, reaches]
  rfl

/-- The keys that are offered are those that reach a new table from one of the tables. -/
theorem offers_offered (keys : ForeignKeys) (p : JoinPath) :
    Offers keys (fun _ key => ∃ t ∈ p.tables, p.reachesNew t key) (p.offered keys) := by
  have run (tables : List TableName) (Q : ConstraintId → ForeignKey → Prop)
      (found : List (ConstraintId × ForeignKey)) (h : Offers keys Q found) :
      Offers keys (fun id key => Q id key ∨ ∃ t ∈ tables, p.reachesNew t key)
        (tables.foldl (fun found t => p.offerFrom t found (keys.touching t).toList) found) := by
    induction tables generalizing Q found with
    | nil => exact h.congr (by simp)
    | cons t tables ih =>
      have own (entry) (mem : entry ∈ (keys.touching t).toList) : keys[entry.1]? = some entry.2 :=
        (ForeignKeys.getElem?_touching.1 (Std.ExtTreeMap.mem_toList_iff_getElem?_eq_some.1 mem)).1
      refine (ih _ _ (offers_offerFrom h own t)).congr fun id key there => ?_
      have all : p.reachesNew t key → (id, key) ∈ (keys.touching t).toList := fun reaches => by
        rw [Std.ExtTreeMap.mem_toList_iff_getElem?_eq_some, ForeignKeys.getElem?_touching]
        exact ⟨there, touches_of_reachesNew reaches⟩
      simp only [List.exists_mem_cons_iff]
      tauto
  have start : Offers keys (fun _ _ => False) [] := ⟨List.nodup_nil, by simp⟩
  exact (run p.tables _ [] start).congr (by simp)

theorem mem_offered {key : ForeignKey} : (id, key) ∈ p.offered keys ↔ keys[id]? = some key ∧
    ∃ far, (∃ t ∈ p.tables, key.otherSide? t = some far) ∧ far ∉ p.tables := by
  rw [(offers_offered keys p).mem_iff]
  simp only [reachesNew_iff]
  refine and_congr_right fun _ => ⟨?_, ?_⟩
  · rintro ⟨t, mem, far, reaches, new⟩
    exact ⟨far, ⟨t, mem, reaches⟩, new⟩
  · rintro ⟨far, ⟨t, mem, reaches⟩, new⟩
    exact ⟨t, mem, far, reaches, new⟩

theorem brings_available (tells : Tells server keys) (holds : c.Holds keys)
    (known : ∀ t ∈ p.tables, c.contains t) :
    Brings server keys p.available c (.ok (p.offered keys)) := by
  refine brings_foldlM holds fun found t mem c' grown holds' => ?_
  have contained := Catalog.contains_of_le grown (known t mem)
  exact (Catalog.brings_foreignKeys tells holds' contained).bind fun _ _ => brings_pure

/-! ## Paths that keys are pushed onto -/

/-- The paths that pushing keys onto a base table leads to, each with the catalog and the database
then. A key that is refused leaves the path as it is. What is available may be asked in between. -/
inductive Pushed (server : Server σ) (start : Catalog) (base : TableName) :
    JoinPath → Catalog → σ → Prop where
  | base (s : σ) : Pushed server start base { base } start s
  | push {p : JoinPath} {c c' : Catalog} {s s' : σ} {r : Except Error JoinPath}
    (before : Pushed server start base p c s) (id : ConstraintId)
    (held : ((p.push id).run.run c).run server s = ((r, c'), s')) :
    Pushed server start base (r.toOption.getD p) c' s'
  | available {p : JoinPath} {c c' : Catalog} {s s' : σ}
    {r : Except Error (List (ConstraintId × ForeignKey))} (before : Pushed server start base p c s)
    (held : (p.available.run.run c).run server s = ((r, c'), s')) :
    Pushed server start base p c' s'

variable {start : Catalog} {base : TableName} {s : σ}

/-- The catalog knows the tables of a path that keys have been pushed onto, and recalls the path. -/
theorem Pushed.resolved (tells : Tells server keys) (holds : start.Holds keys)
    (known : start.contains base) (h : Pushed server start base p c s) :
    c.Holds keys ∧ (∀ t ∈ p.tables, c.contains t) ∧ p.Resolved c := by
  induction h with
  | base s => exact ⟨holds, by simpa [tables] using known, .base base⟩
  | @push p c c' s s' r _ id held ih =>
    obtain ⟨holds, known, resolved⟩ := ih
    obtain ⟨_, _, pushes, grown, holds'⟩ := brings_push tells holds known id s
    obtain ⟨⟨rfl, rfl⟩, rfl⟩ : (r = p.pushed keys id ∧ c' = _) ∧ s' = _ := by
      simpa using held.symm.trans pushes
    have recalled := Dialogue.Always.run (memoized_push p id c) server s
    rw [held] at recalled
    cases accepted : p.pushed keys id with
    | error e =>
      exact ⟨holds', fun t mem => Catalog.contains_of_le grown (known t mem), resolved.mono grown⟩
    | ok q =>
      obtain ⟨key, far, own, reaches, new, rfl⟩ := pushed_eq_ok.1 accepted
      refine ⟨holds', ?_, .extend (resolved.mono grown) ⟨new, reaches⟩ (recalled.2 _ accepted)⟩
      obtain ⟨near, -, reaches⟩ := reaches
      obtain ⟨source, target⟩ := holds'.ends id key own
      have far : c'.contains far := by
        obtain ⟨rfl, -⟩ | ⟨-, rfl⟩ := ForeignKey.ends_of_otherSide? reaches
        · exact source
        · exact target
      intro t mem
      rw [Except.toOption, Option.getD_some, tables_extend, List.mem_append,
        List.mem_singleton] at mem
      obtain old | rfl := mem
      · exact Catalog.contains_of_le grown (known t old)
      · exact far
  | @available p c c' s s' r _ held ih =>
    obtain ⟨holds, known, resolved⟩ := ih
    obtain ⟨_, _, asks, grown, holds'⟩ := brings_available tells holds known s
    obtain ⟨⟨rfl, rfl⟩, rfl⟩ : (r = .ok (p.offered keys) ∧ c' = _) ∧ s' = _ := by
      simpa using held.symm.trans asks
    exact ⟨holds', fun t mem => Catalog.contains_of_le grown (known t mem), resolved.mono grown⟩

/-- To choose a further join of a sheet is to push its key onto the path. -/
theorem Resolved.result_setJoin {sheet : Sheet} (h : sheet.path.Resolved c) (id : ConstraintId)
    (server : Server σ) (s : σ) :
    (sheet.setJoin sheet.path.links.length id).result server c s =
      ((sheet.path.push id).result server c s).map sheet.setPath := by
  have ids : sheet.path.ids.length = sheet.path.links.length := List.length_map ..
  have again : resolve sheet.path.base (sheet.path.ids ++ [id]) =
      resolve sheet.path.base sheet.path.ids >>= fun p => push p id := by
    rw [resolve, List.foldlM_append]
    simp [resolve]
  have chosen : sheet.setJoin sheet.path.links.length id = (do
      let p ← resolve sheet.path.base sheet.path.ids
      let q ← push p id
      return sheet.setPath q) := by
    unfold Sheet.setJoin
    rw [if_neg (Nat.lt_irrefl _), if_neg (by simp [← ids]), ← ids, List.take_length, again,
      bind_assoc]
  unfold CatalogAction.result
  rw [chosen, ExceptT.run_bind, StateT.run_bind, h.recalls c (le_refl c), Dialogue.done_bind]
  dsimp only
  rw [ExceptT.run_bind, StateT.run_bind, Dialogue.run_bind]
  generalize ((sheet.path.push id).run.run c).run server s = outcome
  obtain ⟨⟨_ | _, _⟩, _⟩ := outcome <;> rfl

/-- What is available to a path that keys have been pushed onto are exactly the keys that it accepts
next, each of them once. An accepted key is appended with the one of its tables that is not on the
path. The same keys are accepted as the next join of a sheet with that path. -/
theorem Pushed.available_iff_push (tells : Tells server keys) (holds : start.Holds keys)
    (known : start.contains base) (p : JoinPath) :
    ∃ offered, (offered.map Prod.fst).Nodup ∧ ∀ c s, Pushed server start base p c s →
      p.available.result server c s = .ok offered ∧
      (∀ id, (∃ q, (p.push id).result server c s = .ok q) ↔ id ∈ offered.map Prod.fst) ∧
      (∀ id key, (id, key) ∈ offered → keys[id]? = some key ∧ ∃ new ∉ p.tables,
        ((key.source = new ∧ key.target ∈ p.tables) ∨ (key.source ∈ p.tables ∧ key.target = new)) ∧
          (p.push id).result server c s = .ok (p.extend ⟨id, key, new⟩)) ∧
      ∀ (sheet : Sheet) (id : ConstraintId), sheet.path = p →
        (sheet.setJoin p.links.length id).result server c s =
          ((p.push id).result server c s).map sheet.setPath := by
  refine ⟨p.offered keys, (offers_offered keys p).nodup, fun c s h => ?_⟩
  obtain ⟨holds, known, resolved⟩ := h.resolved tells holds known
  refine ⟨(brings_available tells holds known).result s, fun id => ?_, fun id key mem => ?_, ?_⟩
  · rw [(brings_push tells holds known id).result s]
    constructor
    · rintro ⟨q, accepted⟩
      obtain ⟨key, far, own, reaches, new, -⟩ := pushed_eq_ok.1 accepted
      exact List.mem_map_of_mem (mem_offered.2 ⟨own, far, reaches, new⟩)
    · intro offered
      obtain ⟨⟨_, key⟩, mem, rfl⟩ := List.mem_map.1 offered
      obtain ⟨own, far, reaches, new⟩ := mem_offered.1 mem
      exact ⟨_, pushed_eq_ok.2 ⟨key, far, own, reaches, new, rfl⟩⟩
  · rw [(brings_push tells holds known id).result s]
    obtain ⟨own, far, reaches, new⟩ := mem_offered.1 mem
    have accepted := pushed_eq_ok.2 ⟨key, far, own, reaches, new, rfl⟩
    obtain ⟨t, there, reaches⟩ := reaches
    refine ⟨own, far, new, ?_, accepted⟩
    obtain ⟨source, target⟩ | ⟨source, target⟩ := ForeignKey.ends_of_otherSide? reaches
    · exact .inl ⟨source, target ▸ there⟩
    · exact .inr ⟨source ▸ there, target⟩
  · rintro sheet id rfl
    exact resolved.result_setJoin id server s

/-- Lines are joined to orders. Of the other keys one leads to the customers; one leads from orders
to orders, and one ties orders to lines once more. -/
theorem available_iff_push_orders :
    let orders : TableName := ⟨"shop", "orders"⟩
    let lines : TableName := ⟨"shop", "lines"⟩
    let customers : TableName := ⟨"shop", "customers"⟩
    let db : Scripted := { tables := [], columns := ∅, keysFor := ∅, failing := none, keys :=
      [(7, ⟨lines, orders, ["order_id"], ["id"]⟩), (8, ⟨orders, customers, ["customer"], ["id"]⟩),
        (9, ⟨orders, orders, ["parent"], ["id"]⟩), (10, ⟨lines, orders, ["returned"], ["id"]⟩)] }
    ∃ (p : JoinPath) (c : Catalog) (s : Script Request),
      Pushed (Scripted.server db) (Catalog.ofTables [lines, orders, customers]) orders p c s ∧
      p.tables = [orders, lines] ∧
      ∀ id, (∃ q, (p.push id).result (Scripted.server db) c s = .ok q) ↔ id = 8 := by
  intro orders lines customers db
  have distinct : (db.keys.map Prod.fst).Nodup := by decide
  have tells : Tells (Scripted.server db) (.ofList db.keys) :=
    Scripted.tells_server rfl (fun _ => rfl) distinct
  have holds : (Catalog.ofTables [lines, orders, customers]).Holds (.ofList db.keys) := by
    refine Catalog.holds_ofTables fun id key own => ?_
    have ends : ∀ entry ∈ db.keys, entry.2.source ∈ [lines, orders, customers] ∧
        entry.2.target ∈ [lines, orders, customers] := by decide
    exact ends _ ((ForeignKeys.getElem?_ofList distinct).1 own)
  have known : (Catalog.ofTables [lines, orders, customers]).contains orders := by decide +kernel
  have bare : Pushed (Scripted.server db) (Catalog.ofTables [lines, orders, customers]) orders
      { base := orders } (Catalog.ofTables [lines, orders, customers]) {} := .base _
  have reached := bare.push 7 rfl
  obtain ⟨offered, -, all⟩ := Pushed.available_iff_push tells holds known _
  obtain ⟨available, accepts, -⟩ := all _ _ reached
  refine ⟨_, _, _, reached, by decide +kernel, fun id => ?_⟩
  rw [accepts]
  have ids : (Except.ok (offered.map Prod.fst) : Except Error (List ConstraintId)) = .ok [8] := by
    refine (congrArg (Except.map (List.map Prod.fst)) available).symm.trans ?_
    decide +kernel
  rw [Except.ok.inj ids, List.mem_singleton]

end JoinPath

end JoinSheet
