import Mathlib.Data.List.Chain
import Mathlib.Data.List.Map2
import JoinSheet.Proofs.Number.Reading
import JoinSheet.Proofs.Success
import JoinSheet.Server.CatalogRow

/-!
# Foreign keys in rows

A catalog tells of a foreign key with one row for each of its source columns, and rows that follow
each other with one number are one key. Keys come back from their rows as long as no two neighbours
share a number, and whatever comes from rows is such a list: each row adds its columns to one key.

## Main definitions

* `ForeignKey.toRows` — the rows that tell of a key.
* `ForeignKey.IsListing` — the lists of keys that rows can tell of.

## Main statements

* `ForeignKey.addRow_eq_ok` — what one row does.
* `ForeignKey.ofRows_toRows` — rows and keys are told apart by the numbers alone.
-/

namespace JoinSheet

/-! ## Integers in fields -/

theorem Text.toInt?_ofInt (n : Int) : toInt? (ofInt n) = some n := by
  have natural (k : Nat) : toNat? (ofNat k) = some k := by
    rw [(isDigits_ofNat k).toNat?_eq, ofNat, Nat.ofDigitChars_ten_toDigits]
  cases n with
  | ofNat k =>
    have unsigned : ∀ c ∈ (ofNat k).head?, ¬(c = '+' ∨ c = '-') := by
      intro c first
      have digit := (isDigits_ofNat k).all c (List.mem_of_mem_head? first)
      rintro (rfl | rfl) <;> cases digit
    rw [ofInt, toInt?_of_head? unsigned, natural]
    rfl
  | negSucc k =>
    rw [ofInt, toInt?, natural]
    rfl

namespace Row

variable {row : Row} {i : Nat}

theorem field_eq_ok {t : Text} : row.field i = .ok t ↔ row[i]?.join = some t := by
  unfold field
  cases row[i]?.join <;> simp

theorem integer_eq_ok {n : Int} : row.integer i = .ok n ↔
    ∃ t, row.field i = .ok t ∧ t.toInt? = some n ∧ minInteger ≤ n ∧ n ≤ maxInteger := by
  unfold integer
  rw [Except.bind_eq_ok]
  refine exists_congr fun t => and_congr_right fun _ => ?_
  cases read : t.toInt? with
  | none => exact ⟨nofun, nofun⟩
  | some m =>
    dsimp only
    by_cases range : minInteger ≤ m ∧ m ≤ maxInteger
    · rw [if_pos range]
      exact ⟨fun h => by cases h; exact ⟨rfl, range⟩, fun ⟨h, _⟩ => by cases h; rfl⟩
    · rw [if_neg range]
      exact ⟨nofun, fun ⟨h, bounds⟩ => by cases h; exact absurd bounds range⟩

end Row

namespace ForeignKey

/-- The row that tells of one source column and the column it references, if that is named. -/
def pairRow (id : ConstraintId) (key : ForeignKey) (column : Text) (target : Option Text) : Row :=
  [some (Text.ofInt id), some key.source.schema, some key.source.table, some column,
    some key.target.schema, some key.target.table, target]

/-- The rows that tell of a key, one for each of its source columns. -/
def toRows (id : ConstraintId) (key : ForeignKey) : List Row :=
  (key.sourceColumns.zipLeft key.targetColumns).map fun (column, target) =>
    key.pairRow id column target

/-- The key with one more source column, and with what that column references if it is named. -/
def extend (key : ForeignKey) (column : Text) (target : Option Text) : ForeignKey :=
  { key with
    sourceColumns := key.sourceColumns ++ [column]
    targetColumns := key.targetColumns ++ target.toList }

/-- A key that rows can tell of under a number: it has a column, it references no more columns than
it has, and the number is one of 64 bits. -/
structure IsListed (id : ConstraintId) (key : ForeignKey) : Prop where
  number : Row.minInteger ≤ id ∧ id ≤ Row.maxInteger
  ne_nil : key.sourceColumns ≠ []
  length_le : key.targetColumns.length ≤ key.sourceColumns.length

/-- Keys that rows can tell of one after another: neighbours have different numbers. -/
structure IsListing (keys : List (ConstraintId × ForeignKey)) : Prop where
  listed : ∀ entry ∈ keys, IsListed entry.1 entry.2
  isChain : (keys.map Prod.fst).IsChain (· ≠ ·)

/-! ## One row -/

/-- A row extends the last key if it has that key's number, and starts a key if it has not. -/
theorem addRow_eq_ok {keys keys' : List (ConstraintId × ForeignKey)} {row : Row} :
    addRow keys row = .ok keys' ↔ ∃ id column, row.integer 0 = .ok id ∧ row.field 3 = .ok column ∧
      ((∃ before key, keys = before ++ [(id, key)] ∧
          keys' = before ++ [(id, key.extend column row[6]?.join)]) ∨
        (id ∉ (keys.map Prod.fst).getLast? ∧ ∃ source target,
          row.tableAt 1 = .ok source ∧ row.tableAt 4 = .ok target ∧
          keys' = keys ++ [(id, ⟨source, target, [column], row[6]?.join.toList⟩)])) := by
  have starts (id : ConstraintId) (column : Text) :
      addRow.start keys row id column row[6]?.join = .ok keys' ↔ ∃ source target,
        row.tableAt 1 = .ok source ∧ row.tableAt 4 = .ok target ∧
        keys' = keys ++ [(id, ⟨source, target, [column], row[6]?.join.toList⟩)] := by
    simp only [addRow.start, Except.bind_eq_ok]
    constructor
    · rintro ⟨source, hs, target, ht, h⟩
      cases h
      exact ⟨source, target, hs, ht, rfl⟩
    · rintro ⟨source, target, hs, ht, rfl⟩
      exact ⟨source, hs, target, ht, rfl⟩
  simp only [addRow, Except.bind_eq_ok]
  refine ⟨?_, ?_⟩
  · rintro ⟨id, number, column, hc, h⟩
    refine ⟨id, column, number, hc, ?_⟩
    obtain rfl | ⟨before, ⟨last, key⟩, rfl⟩ := keys.eq_nil_or_concat'
    · exact .inr ⟨nofun, (starts id column).1 h⟩
    · rw [List.getLast?_concat] at h
      dsimp only at h
      split_ifs at h with same
      · cases h
        exact .inl ⟨before, key, by rw [same], by rw [List.dropLast_concat]; rfl⟩
      · refine .inr ⟨?_, (starts id column).1 h⟩
        rw [List.map_append, List.map_singleton, List.getLast?_concat]
        simpa using same
  · rintro ⟨id, column, number, hc, h⟩
    refine ⟨id, number, column, hc, ?_⟩
    obtain ⟨before, key, rfl, rfl⟩ | ⟨other, h⟩ := h
    · rw [List.getLast?_concat, List.dropLast_concat]
      exact if_pos rfl
    · obtain rfl | ⟨before, ⟨last, key⟩, rfl⟩ := keys.eq_nil_or_concat'
      · exact (starts id column).2 h
      · rw [List.map_append, List.map_singleton, List.getLast?_concat] at other
        rw [List.getLast?_concat]
        exact (if_neg (by simpa using other)).trans ((starts id column).2 h)

/-! ## The rows of a key -/

theorem zipLeft_cons {α β : Type} (a : α) (as : List α) (bs : List β) :
    (a :: as).zipLeft bs = (a, bs.head?) :: as.zipLeft bs.tail := by
  cases bs with
  | nil => rw [List.zipLeft_cons_nil, List.tail_nil, List.zipLeft_nil_right]; rfl
  | cons b bs => rfl

section pairRow

variable {id : ConstraintId} {key : ForeignKey} {column : Text} {target : Option Text}

theorem integer_pairRow (number : Row.minInteger ≤ id ∧ id ≤ Row.maxInteger) :
    (key.pairRow id column target).integer 0 = .ok id :=
  Row.integer_eq_ok.2 ⟨Text.ofInt id, rfl, Text.toInt?_ofInt id, number⟩

/-- A row of a key extends any key that comes last with the same number. -/
theorem addRow_pairRow_concat (number : Row.minInteger ≤ id ∧ id ≤ Row.maxInteger)
    (before : List (ConstraintId × ForeignKey)) (last : ForeignKey) :
    addRow (before ++ [(id, last)]) (key.pairRow id column target) =
      .ok (before ++ [(id, last.extend column target)]) :=
  addRow_eq_ok.2 ⟨id, column, integer_pairRow number, rfl, .inl ⟨before, last, rfl, rfl⟩⟩

/-- A row of a key starts it after a key with another number. -/
theorem addRow_pairRow (number : Row.minInteger ≤ id ∧ id ≤ Row.maxInteger)
    {keys : List (ConstraintId × ForeignKey)} (other : id ∉ (keys.map Prod.fst).getLast?) :
    addRow keys (key.pairRow id column target) =
      .ok (keys ++ [(id, ⟨key.source, key.target, [column], target.toList⟩)]) :=
  addRow_eq_ok.2 ⟨id, column, integer_pairRow number, rfl,
    .inr ⟨other, key.source, key.target, rfl, rfl, rfl⟩⟩

/-- The rows of pairs of columns add them, pair by pair, to the key that comes last. -/
theorem foldlM_pairRow (number : Row.minInteger ≤ id ∧ id ≤ Row.maxInteger)
    (before : List (ConstraintId × ForeignKey)) (last : ForeignKey) {columns targets : List Text}
    (h : targets.length ≤ columns.length) :
    ((columns.zipLeft targets).map fun (column, target) => key.pairRow id column target).foldlM
        addRow (before ++ [(id, last)]) =
      .ok (before ++ [(id, { last with
        sourceColumns := last.sourceColumns ++ columns
        targetColumns := last.targetColumns ++ targets })]) := by
  induction columns generalizing targets last with
  | nil =>
    obtain rfl := List.eq_nil_of_length_eq_zero (Nat.le_zero.1 h)
    simp only [List.append_nil]
    rfl
  | cons column columns ih =>
    have rest : targets.tail.length ≤ columns.length := by
      rw [List.length_tail]
      exact Nat.sub_le_of_le_add h
    have whole : targets.head?.toList ++ targets.tail = targets := by cases targets <;> rfl
    rw [zipLeft_cons, List.map_cons, List.foldlM_cons, addRow_pairRow_concat number,
      Except.ok_bind, ih _ rest]
    simp only [extend, List.append_assoc, whole, List.singleton_append]

end pairRow

/-- The rows of a key add it to keys of which the last has another number. -/
theorem foldlM_toRows {id : ConstraintId} {key : ForeignKey} (h : IsListed id key)
    {keys : List (ConstraintId × ForeignKey)} (other : id ∉ (keys.map Prod.fst).getLast?) :
    (key.toRows id).foldlM addRow keys = .ok (keys ++ [(id, key)]) := by
  obtain ⟨source, target, columns, targets⟩ := key
  -- the first row does what it would do if a key without columns came last
  let bare : ForeignKey := ⟨source, target, [], []⟩
  have started : (toRows id ⟨source, target, columns, targets⟩).foldlM addRow keys =
      (toRows id ⟨source, target, columns, targets⟩).foldlM addRow (keys ++ [(id, bare)]) := by
    cases columns with
    | nil => exact absurd rfl h.ne_nil
    | cons column columns =>
      rw [toRows, zipLeft_cons, List.map_cons, List.foldlM_cons, List.foldlM_cons,
        addRow_pairRow h.number other, addRow_pairRow_concat h.number]
      rfl
  exact started.trans (foldlM_pairRow h.number keys bare h.length_le)

/-! ## Listings -/

/-- The rows of keys add them, in their order, to keys that they can come after. -/
theorem foldlM_flatMap_toRows {before keys : List (ConstraintId × ForeignKey)}
    (h : IsListing (before ++ keys)) :
    (keys.flatMap fun entry => entry.2.toRows entry.1).foldlM addRow before =
      .ok (before ++ keys) := by
  induction keys generalizing before with
  | nil =>
    rw [List.append_nil]
    rfl
  | cons entry keys ih =>
    obtain ⟨id, key⟩ := entry
    have other : id ∉ (before.map Prod.fst).getLast? := by
      intro last
      have chain := h.isChain
      rw [List.map_append, List.isChain_append] at chain
      exact chain.2.2 id last id rfl rfl
    have next : before ++ (id, key) :: keys = before ++ [(id, key)] ++ keys := by simp
    rw [List.flatMap_cons, List.foldlM_append, foldlM_toRows (h.listed (id, key) (by simp)) other,
      next, Except.ok_bind, ih (next ▸ h)]

theorem IsListed.extend {id : ConstraintId} {key : ForeignKey} (h : IsListed id key)
    {column : Text} {target : Option Text} : IsListed id (key.extend column target) where
  number := h.number
  ne_nil := by simp [ForeignKey.extend]
  length_le := by
    have := h.length_le
    cases target <;> simp [ForeignKey.extend] <;> omega

/-- What rows and the keys they tell of have in common. -/
structure Tells (rows : List Row) (keys : List (ConstraintId × ForeignKey)) : Prop where
  isListing : IsListing keys
  sourceColumns : (keys.flatMap (·.2.sourceColumns)).map some = rows.map (·[3]?.join)
  targetColumns : keys.flatMap (·.2.targetColumns) = rows.filterMap (·[6]?.join)

/-- One more row adds its columns to what the rows before it tell. -/
theorem Tells.concat {rows : List Row} {keys keys' : List (ConstraintId × ForeignKey)} {row : Row}
    (told : Tells rows keys) (h : addRow keys row = .ok keys') : Tells (rows ++ [row]) keys' := by
  obtain ⟨id, column, number, hc, h⟩ := addRow_eq_ok.1 h
  have name : row[3]?.join = some column := Row.field_eq_ok.1 hc
  obtain ⟨_, -, -, range⟩ := Row.integer_eq_ok.1 number
  obtain ⟨⟨listed, chain⟩, sources, targets⟩ := told
  have named : [row].filterMap (·[6]?.join) = row[6]?.join.toList := by
    cases h : row[6]?.join <;> simp [h]
  obtain ⟨before, key, rfl, rfl⟩ | ⟨other, source, target, -, -, rfl⟩ := h
  · refine ⟨⟨?_, by simpa using chain⟩, ?_, ?_⟩
    · rw [List.forall_mem_append, List.forall_mem_singleton] at listed ⊢
      exact ⟨listed.1, listed.2.extend⟩
    · rw [List.map_append, ← sources]
      simp [extend, name]
    · rw [List.filterMap_append, ← targets, named]
      simp [extend]
  · refine ⟨⟨?_, ?_⟩, ?_, ?_⟩
    · rw [List.forall_mem_append, List.forall_mem_singleton]
      exact ⟨listed, range, by simp, by cases row[6]?.join <;> simp⟩
    · rw [List.map_append, List.isChain_append]
      refine ⟨chain, .singleton _, fun last mem first same => ?_⟩
      cases same
      rintro rfl
      exact other mem
    · rw [List.map_append, ← sources]
      simp [name]
    · rw [List.filterMap_append, ← targets, named]
      simp

/-- What rows tell is a listing that has the columns of every row in the order of the rows. -/
theorem tells_of_ofRows {rows : List Row} {keys : List (ConstraintId × ForeignKey)}
    (h : ofRows rows = .ok keys) : Tells rows keys := by
  induction rows using List.reverseRecOn generalizing keys with
  | nil =>
    cases h
    exact ⟨⟨nofun, .nil⟩, rfl, rfl⟩
  | append_singleton rows row ih =>
    rw [ofRows, List.foldlM_append, Except.bind_eq_ok] at h
    obtain ⟨before, told, last⟩ := h
    simp only [List.foldlM_cons, List.foldlM_nil, bind_pure] at last
    exact (ih told).concat last

/-- Keys come back from their rows, in their order and with their columns still in pairs, if each of
them has a column, references at most as many as it has, and its neighbours have other numbers. Rows
of any kind that can be read tell of such keys: every row adds its column, and the column that it
references if it names one, behind those of the rows before it. -/
theorem ofRows_toRows :
    (∀ keys, IsListing keys →
      ofRows (keys.flatMap fun entry => entry.2.toRows entry.1) = .ok keys) ∧
    ∀ rows keys, ofRows rows = .ok keys → IsListing keys ∧
      (keys.flatMap (·.2.sourceColumns)).map some = rows.map (·[3]?.join) ∧
      keys.flatMap (·.2.targetColumns) = rows.filterMap (·[6]?.join) := by
  refine ⟨fun keys h => ?_, fun rows keys h => ?_⟩
  · exact foldlM_flatMap_toRows (List.nil_append keys ▸ h)
  · obtain ⟨isListing, sources, targets⟩ := tells_of_ofRows h
    exact ⟨isListing, sources, targets⟩

/-- A composite key, a key that names no columns of its target, and the first number once more. -/
theorem ofRows_toRows_composite :
    let a : TableName := ⟨"s", "a"⟩
    let b : TableName := ⟨"s", "b"⟩
    let keys : List (ConstraintId × ForeignKey) :=
      [(7, ⟨a, b, ["x", "y"], ["u", "v"]⟩), (-9, ⟨a, b, ["z", "x"], []⟩), (7, ⟨b, a, ["u"], ["x"]⟩)]
    IsListing keys ∧ ofRows (keys.flatMap fun entry => entry.2.toRows entry.1) = .ok keys ∧
      keys.flatMap (·.2.sourceColumns) = ["x", "y", "z", "x", "u"] := by
  intro a b keys
  have listing : IsListing keys := by
    refine ⟨fun entry mem => ?_, by decide⟩
    simp only [keys, List.mem_cons, List.not_mem_nil, or_false] at mem
    obtain rfl | rfl | rfl := mem <;> exact ⟨by decide, by decide, by decide⟩
  have decoded := ofRows_toRows.1 keys listing
  refine ⟨listing, decoded, (List.map_inj_right fun _ _ => Option.some.inj).1 ?_⟩
  exact (ofRows_toRows.2 _ _ decoded).2.1

end ForeignKey

end JoinSheet
