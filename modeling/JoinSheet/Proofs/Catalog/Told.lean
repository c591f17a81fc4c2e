import JoinSheet.Proofs.Catalog.Memory
import JoinSheet.Server.Embedded
import JoinSheet.Server.Scripted

/-!
# Databases that tell the keys of their tables

A database with one set of keys tells of every table those that touch it. A catalog asks for the
keys of a table once, so what it holds of a table are these keys at any later time. Whatever state
the database is in and whatever the catalog has loaded before, what a catalog action comes to is
then settled by the set of keys alone.

## Main definitions

* `ForeignKeys.touching` — the keys with a table at one end.
* `Tells`, `Catalog.Holds` — a database and a catalog that tell of tables the keys that touch them.
* `Brings` — the result of an action with such a database and catalog.

## Main statements

* `Catalog.brings_foreignKeys` — the keys of a known table are those that touch it.
* `Scripted.tells_server`, `Embedded.tells_server` — these databases tell their keys.
-/

namespace JoinSheet

variable {α β σ : Type}

/-! ## Keys of a table -/

namespace ForeignKeys

variable {keys : ForeignKeys} {t : TableName} {id : ConstraintId} {key : ForeignKey}

/-- The keys with a table at one end. -/
def touching (keys : ForeignKeys) (t : TableName) : ForeignKeys :=
  keys.filter fun _ key => key.touches t

theorem getElem?_touching :
    (keys.touching t)[id]? = some key ↔ keys[id]? = some key ∧ key.touches t := by
  rw [touching, Std.ExtTreeMap.getElem?_filter', Option.filter_eq_some_iff]

theorem getElem?_ofList {l : List (ConstraintId × ForeignKey)} (distinct : (l.map Prod.fst).Nodup) :
    (Std.ExtTreeMap.ofList l : ForeignKeys)[id]? = some key ↔ (id, key) ∈ l := by
  have apart : l.Pairwise fun a b => ¬compare a.1 b.1 = .eq :=
    (List.pairwise_map.1 distinct).imp fun ne => by simpa using ne
  have here {key : ForeignKey} (mem : (id, key) ∈ l) :
      (Std.ExtTreeMap.ofList l : ForeignKeys)[id]? = some key :=
    Std.ExtTreeMap.getElem?_ofList_of_mem (by simp) apart mem
  refine ⟨fun found => ?_, here⟩
  have contained := Std.ExtTreeMap.mem_ofList.1
    (Std.ExtTreeMap.mem_iff_isSome_getElem?.2 (Option.isSome_iff_exists.2 ⟨key, found⟩))
  obtain ⟨⟨_, key'⟩, mem, rfl⟩ := List.mem_map.1 (List.contains_iff_mem.1 contained)
  obtain rfl : key = key' := Option.some.inj (found.symm.trans (here mem))
  exact mem

/-- The entries of a map make up the map again, in any order and however often they are told. -/
theorem getElem?_foldl_insert {told : List (ConstraintId × ForeignKey)}
    (own : ∀ entry ∈ told, keys[entry.1]? = some entry.2) (start : ForeignKeys)
    (id : ConstraintId) : (told.foldl (fun found (id, key) => found.insert id key) start)[id]? =
      if id ∈ told.map Prod.fst then keys[id]? else start[id]? := by
  induction told generalizing start with
  | nil => simp
  | cons entry told ih =>
    obtain ⟨head, tail⟩ := List.forall_mem_cons.1 own
    rw [List.foldl_cons, ih tail, List.map_cons]
    by_cases later : id ∈ told.map Prod.fst
    · rw [if_pos later, if_pos (List.mem_cons_of_mem _ later)]
    · rw [if_neg later]
      by_cases here : id = entry.1
      · rw [if_pos (here ▸ List.mem_cons_self), here, head]
        exact Std.ExtTreeMap.getElem?_insert_self
      · have other : id ∉ entry.1 :: told.map Prod.fst := by simp [here, later]
        rw [if_neg other, Std.ExtTreeMap.getElem?_insert]
        simp [Ne.symm here]

/-- What is told of a table makes up the keys that touch it. -/
theorem foldl_insert_eq_touching {told : List (ConstraintId × ForeignKey)}
    (h : ∀ id key, (id, key) ∈ told ↔ keys[id]? = some key ∧ key.touches t) :
    told.foldl (fun found (id, key) => found.insert id key) ∅ = keys.touching t := by
  have own : ∀ entry ∈ told, (keys.touching t)[entry.1]? = some entry.2 := fun entry mem =>
    getElem?_touching.2 ((h entry.1 entry.2).1 mem)
  refine Std.ExtTreeMap.ext_getElem? fun id => ?_
  rw [getElem?_foldl_insert own]
  split
  · rfl
  next untold =>
    rw [Std.ExtTreeMap.getElem?_empty]
    cases found : (keys.touching t)[id]? with
    | none => rfl
    | some key =>
      have mem := (h id key).2 (getElem?_touching.1 found)
      exact absurd (List.mem_map_of_mem mem) untold

end ForeignKeys

/-! ## Databases and catalogs that tell the keys -/

/-- The database tells of every table the keys that touch it, in any order. -/
def Tells (server : Server σ) (keys : ForeignKeys) : Prop :=
  ∀ t s, ∃ told : List (ConstraintId × ForeignKey),
    (server (.loadForeignKeys t) s).1 = .ok told ∧
      ∀ id key, (id, key) ∈ told ↔ keys[id]? = some key ∧ key.touches t

/-- The catalog knows the ends of the keys. What it has loaded of a table are the keys that touch
it. -/
structure Catalog.Holds (c : Catalog) (keys : ForeignKeys) : Prop where
  ends : ∀ (id : ConstraintId) (key : ForeignKey), keys[id]? = some key →
    c.contains key.source ∧ c.contains key.target
  loaded : ∀ t known found, c.entries[t]? = some known → known.foreignKeys = some found →
    found = keys.touching t

/-- Whatever state the database is in, the action comes from the catalog `c` to the result `r`. The
catalog holds the keys again then. -/
def Brings (server : Server σ) (keys : ForeignKeys) (a : CatalogAction α) (c : Catalog)
    (r : Except Error α) : Prop :=
  ∀ s, ∃ c' s', (a.run.run c).run server s = ((r, c'), s') ∧ c ≤ c' ∧ c'.Holds keys

/-- The result of an action on a catalog with a database in some state. -/
def CatalogAction.result (server : Server σ) (a : CatalogAction α) (c : Catalog) (s : σ) :
    Except Error α :=
  ((a.run.run c).run server s).1.1

theorem Catalog.contains_of_le {c c' : Catalog} {t : TableName} (grown : c ≤ c')
    (known : c.contains t) : c'.contains t := by
  have mem := Std.ExtTreeMap.contains_iff_mem.1 known
  obtain ⟨known', there, -⟩ := grown t _ (Std.ExtTreeMap.getElem?_eq_some_getElem mem)
  exact Std.ExtTreeMap.contains_iff_mem.2 <|
    Std.ExtTreeMap.mem_iff_isSome_getElem?.2 <| Option.isSome_of_eq_some there

theorem Catalog.getElem?_ofTables (tables : List TableName) (t : TableName) :
    (ofTables tables).entries[t]? = if t ∈ tables then some ({} : TableEntry) else none := by
  have run (entries : Std.ExtTreeMap TableName TableEntry) :
      (tables.foldl (fun entries t => entries.insert t ({} : TableEntry)) entries)[t]? =
        if t ∈ tables then some ({} : TableEntry) else entries[t]? := by
    induction tables generalizing entries with
    | nil => simp
    | cons u tables ih =>
      rw [List.foldl_cons, ih, Std.ExtTreeMap.getElem?_insert]
      by_cases same : u = t
      · simp [same]
      · simp [same, Ne.symm same]
  exact run ∅

/-- A catalog of which nothing is loaded holds the keys between its tables. -/
theorem Catalog.holds_ofTables {tables : List TableName} {keys : ForeignKeys}
    (ends : ∀ (id : ConstraintId) (key : ForeignKey), keys[id]? = some key →
      key.source ∈ tables ∧ key.target ∈ tables) : (ofTables tables).Holds keys := by
  have known (t : TableName) (mem : t ∈ tables) : (ofTables tables).contains t :=
    Std.ExtTreeMap.contains_iff_mem.2 <| Std.ExtTreeMap.mem_iff_isSome_getElem?.2 <| by
      simp [getElem?_ofTables, mem]
  refine ⟨fun id key own => (ends id key own).imp (known _) (known _), ?_⟩
  intro t known found there loaded
  rw [getElem?_ofTables] at there
  split at there <;> cases there
  cases loaded

/-- A scripted database tells its keys, if it tells them in no other way for some table. -/
theorem Scripted.tells_server {db : Scripted} (working : db.failing = none)
    (plain : ∀ t : Text, db.keysFor[t]? = none) (distinct : (db.keys.map Prod.fst).Nodup) :
    Tells (server db) (.ofList db.keys) := by
  have keysOf (t : TableName) : db.keysOf t = db.keys.filter fun (_, key) => key.touches t := by
    rw [Scripted.keysOf, plain]
    rfl
  refine fun t s => ⟨db.keysOf t, ?_, fun id key => ?_⟩
  · simp only [server, unlessFailing, working, answer]
    rfl
  · rw [keysOf, List.mem_filter, ForeignKeys.getElem?_ofList distinct]

/-- Both tables of a declared key lie in the schema of the table that declares it. -/
theorem Embedded.schema_eq_of_touches {db : Embedded} {d : TableDeclaration} {t : TableName}
    {entry : ConstraintId × ForeignKey} (mem : entry ∈ db.keysDeclaredBy d)
    (touches : entry.2.touches t) : d.name.schema = t.schema := by
  obtain ⟨place, k, _, rfl⟩ := List.mem_mapIdx.1 mem
  simp only [ForeignKey.touches, Bool.or_eq_true, decide_eq_true_eq] at touches
  obtain rfl | rfl := touches <;> rfl

/-- What is told of a table are the keys that touch it, whichever table declares them. -/
theorem Embedded.mem_keysOf {db : Embedded} {t : TableName} {entry : ConstraintId × ForeignKey} :
    entry ∈ db.keysOf t ↔ entry ∈ db.keys ∧ entry.2.touches t := by
  rw [keysOf, keys, List.mem_filter, List.mem_flatMap, List.mem_flatMap]
  refine and_congr_left fun touches => ⟨?_, ?_⟩
  · rintro ⟨d, near, mem⟩
    exact ⟨d, (List.mem_filter.1 (List.mem_mergeSort.1 near)).1, mem⟩
  · rintro ⟨d, declared, mem⟩
    have near := beq_iff_eq.2 (schema_eq_of_touches mem touches)
    exact ⟨d, List.mem_mergeSort.2 (List.mem_filter.2 ⟨declared, near⟩), mem⟩

/-- An embedded database tells its keys, unless two of them are hashed to one number. -/
theorem Embedded.tells_server {db : Embedded} (distinct : (db.keys.map Prod.fst).Nodup) :
    Tells db.server (.ofList db.keys) := fun t _ =>
  ⟨db.keysOf t, rfl, fun _ _ => by rw [mem_keysOf, ForeignKeys.getElem?_ofList distinct]⟩

section Brings

variable {server : Server σ} {keys : ForeignKeys} {a : CatalogAction α} {f : α → CatalogAction β}
  {c : Catalog} {x : α} {e : Error} {t : TableName}

theorem Brings.result {r : Except Error α} (h : Brings server keys a c r) (s : σ) :
    a.result server c s = r := by
  obtain ⟨c', s', held, -⟩ := h s
  rw [CatalogAction.result, held]

theorem brings_pure (holds : c.Holds keys) : Brings server keys (pure x) c (.ok x) :=
  fun s => ⟨c, s, rfl, le_refl c, holds⟩

theorem brings_throw (holds : c.Holds keys) :
    Brings server keys (throw e : CatalogAction α) c (.error e) :=
  fun s => ⟨c, s, rfl, le_refl c, holds⟩

theorem Brings.bind {r : Except Error β} (ha : Brings server keys a c (.ok x))
    (hf : ∀ c', c ≤ c' → c'.Holds keys → Brings server keys (f x) c' r) :
    Brings server keys (a >>= f) c r := by
  intro s
  obtain ⟨c', s', first, grown, holds⟩ := ha s
  obtain ⟨c'', s'', second, later, holds⟩ := hf c' grown holds s'
  refine ⟨c'', s'', ?_, grown.trans later, holds⟩
  rw [ExceptT.run_bind, StateT.run_bind, Dialogue.run_bind, first]
  exact second

theorem Brings.bind_error (ha : Brings server keys a c (.error e)) :
    Brings server keys (a >>= f) c (.error e) := by
  intro s
  obtain ⟨c', s', first, grown, holds⟩ := ha s
  refine ⟨c', s', ?_, grown, holds⟩
  rw [ExceptT.run_bind, StateT.run_bind, Dialogue.run_bind, first]
  rfl

/-- An answer that does not depend on the state of the database leads to one result. -/
theorem brings_ask_bind {r : Request} {f : r.Reply → CatalogAction β} {q : Except Error β}
    (later : ∀ s, ∃ x, (server r s).1 = .ok x ∧ Brings server keys (f x) c q) :
    Brings server keys (liftM (Action.ask r) >>= f) c q := by
  intro s
  obtain ⟨x, answered, later⟩ := later s
  obtain ⟨c', s', goes, grown, holds⟩ := later (server r s).2
  refine ⟨c', s', ?_, grown, holds⟩
  have asked : ((liftM (Action.ask r) : CatalogAction _).run.run c).run server s =
      (((server r s).1, c), (server r s).2) := rfl
  rw [ExceptT.run_bind, StateT.run_bind, Dialogue.run_bind, asked, answered]
  exact goes

/-- Steps that each come to a result come to it all together. -/
theorem brings_foldlM {ι : Type} {f : β → ι → CatalogAction β} {g : β → ι → β} {l : List ι} {b : β}
    (holds : c.Holds keys) (step : ∀ b, ∀ i ∈ l, ∀ c', c ≤ c' → c'.Holds keys →
      Brings server keys (f b i) c' (.ok (g b i))) :
    Brings server keys (l.foldlM f b) c (.ok (l.foldl g b)) := by
  induction l generalizing b c with
  | nil => exact brings_pure holds
  | cons i l ih =>
    rw [List.foldlM_cons]
    refine (step b i List.mem_cons_self c (le_refl c) holds).bind fun c' grown holds' => ?_
    refine ih holds' fun b j mem c'' later => ?_
    exact step b j (List.mem_cons_of_mem i mem) c'' (grown.trans later)

theorem Catalog.checkEnds_eq_ok (holds : c.Holds keys) {id : ConstraintId} {key : ForeignKey}
    (own : keys[id]? = some key) : c.checkEnds key = .ok () := by
  obtain ⟨source, target⟩ := holds.ends id key own
  simp [checkEnds, source, target]

theorem forM_liftM_eq_pure {ι : Type} {check : ι → Except Error PUnit} {l : List ι}
    (passed : ∀ i ∈ l, check i = .ok ⟨⟩) :
    (l.forM fun i => (liftM (check i) : CatalogAction PUnit)) = pure ⟨⟩ := by
  induction l with
  | nil => rfl
  | cons i l ih =>
    obtain ⟨head, tail⟩ := List.forall_mem_cons.1 passed
    change (liftM (check i) >>= fun _ => l.forM fun i => liftM (check i) : CatalogAction PUnit) = _
    rw [head, ih tail]
    rfl

theorem Catalog.Holds.insert {known : TableEntry} (holds : c.Holds keys)
    (there : c.entries[t]? = some known) (unloaded : known.foreignKeys = none) :
    c ≤ (⟨c.entries.insert t { known with foreignKeys := some (keys.touching t) }⟩ : Catalog) ∧
      (⟨c.entries.insert t { known with foreignKeys := some (keys.touching t) }⟩ : Catalog).Holds
        keys := by
  have grown : c ≤ (⟨c.entries.insert t { known with foreignKeys := some (keys.touching t) }⟩ :
      Catalog) :=
    le_insert there ⟨fun _ => id, fun _ kept => (nomatch unloaded.symm.trans kept)⟩
  refine ⟨grown, ⟨fun id key own => ?_, fun u entry found hu loaded => ?_⟩⟩
  · obtain ⟨source, target⟩ := holds.ends id key own
    exact ⟨contains_of_le grown source, contains_of_le grown target⟩
  · by_cases same : t = u
    · subst same
      rw [Std.ExtTreeMap.getElem?_insert_self] at hu
      cases hu
      exact (Option.some.inj loaded).symm
    · refine holds.loaded u entry found ?_ loaded
      simpa [Std.ExtTreeMap.getElem?_insert, same] using hu

/-- The keys of a known table are those that touch it. -/
theorem Catalog.brings_foreignKeys (tells : Tells server keys) (holds : c.Holds keys)
    (contained : c.contains t) : Brings server keys (foreignKeys t) c (.ok (keys.touching t)) := by
  have mem := Std.ExtTreeMap.contains_iff_mem.1 contained
  obtain ⟨known, there⟩ : ∃ known, c.entries[t]? = some known :=
    ⟨_, Std.ExtTreeMap.getElem?_eq_some_getElem mem⟩
  intro s
  unfold foreignKeys
  rw [entry_bind there]
  cases loaded : known.foreignKeys with
  | some found =>
    obtain rfl := holds.loaded t known found there loaded
    exact brings_pure holds s
  | none =>
    refine brings_ask_bind (fun s => ?_) s
    obtain ⟨told, answered, all⟩ := tells t s
    have passed : (told.forM fun entry =>
        (liftM (c.checkEnds entry.2) : CatalogAction PUnit)) = pure ⟨⟩ :=
      forM_liftM_eq_pure fun entry mem => checkEnds_eq_ok holds ((all entry.1 entry.2).1 mem).1
    refine ⟨told, answered, fun s => ?_⟩
    obtain ⟨grown, holds'⟩ := holds.insert there loaded
    refine ⟨_, s, ?_, grown, holds'⟩
    change (((told.forM fun entry => (liftM (c.checkEnds entry.2) : CatalogAction PUnit)) >>=
      fun _ => _).run.run c).run server s = _
    rw [passed, pure_bind]
    dsimp only
    rw [ForeignKeys.foldl_insert_eq_touching all]
    rfl

end Brings

end JoinSheet
