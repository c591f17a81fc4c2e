import JoinSheet.Proofs.Sql.Fragment
import JoinSheet.Server.Remote

/-!
# Values bound by number

A statement that writes rows names its placeholders after the columns that they hold the values of.
The reader that numbers the placeholders passes over everything else: the words of the statement
hold no colon, and the names of tables and columns stand between quotes. So it meets the columns one
after the other, each once, and binds their values in that order.

## Main definitions

* `Sql.Passed` — texts in which the reader of placeholders sees none.
* `Sql.insertWith`, `Sql.updateWith` — writing statements with given marks in the places of values.
* `Sql.numbers` — the marks `$k`, `$(k + 1)` and so on.

## Main statements

* `Sql.insert_eq_ok`, `Sql.update_eq_ok` — the statements that write rows.
* `Sql.numbered_insertWith`, `Sql.numbered_updateWith` — what numbering their placeholders comes to.
* `Sql.prepare_writes` — every written column is bound to its own value.
-/

namespace JoinSheet

namespace Sql

variable {t u sql separator : Text} {lead : Text → Text} {columns known before after : List Text}

/-! ## Writing statements -/

/-- What stands before the values of a row that is inserted. -/
def insertInto (target : Identifier) (columns : List Text) : Text :=
  "INSERT INTO " ++ target.render ++ " (" ++ Text.joined ", " (columns.map quoted) ++ ") VALUES ("

/-- What stands behind them to read columns back. -/
def readingBack (returning : List Text) : Text :=
  if returning = [] then []
  else " RETURNING " ++
    Text.joined ", " (returning.map fun name => "CAST(" ++ quoted name ++ " AS text)")

/-- The statement that inserts a row into a table and reads columns back, with `marks` in the places
of the values. -/
def insertWith (target : Identifier) (columns marks returning : List Text) : Text :=
  insertInto target columns ++ Text.joined ", " marks ++ ")" ++ readingBack returning

/-- Columns of a row equated with the marks in the places of their values. -/
def equations (separator : Text) (columns marks : List Text) : Text :=
  Text.joined separator (List.zipWith (fun name mark => quoted name ++ " = " ++ mark) columns marks)

/-- The statement that sets columns of the rows with a given key, with marks in the places of the
values. -/
def updateWith (target : Identifier) (set setMarks keys keyMarks : List Text) : Text :=
  "UPDATE " ++ target.render ++ " SET " ++ equations ", " set setMarks ++
    " WHERE " ++ equations " AND " keys keyMarks

theorem equations_map (separator : Text) (columns : List Text) (mark : Text → Text) :
    equations separator columns (columns.map mark) =
      Text.joined separator (columns.map fun name => quoted name ++ " = " ++ mark name) := by
  rw [equations, List.zipWith_map_right, List.zipWith_self]

theorem equations_placeholder (separator : Text) (columns : List Text) :
    equations separator columns (columns.map placeholder) =
      Text.joined separator (columns.map assignment) :=
  equations_map separator columns placeholder

/-- A name that may stand for a column and for its placeholder. -/
def IsColumn (name : Text) : Prop := name ≠ [] ∧ ∀ c ∈ name, isNameChar c

theorem mapM_writable_eq_ok {names written : List Text} :
    names.mapM writable = .ok written ↔ written = names ∧ ∀ name ∈ names, IsColumn name := by
  rw [Except.mapM_eq_ok]
  constructor
  · intro each
    induction each with
    | nil => exact ⟨rfl, nofun⟩
    | cons head _ ih =>
      obtain ⟨rfl, column⟩ := writable_eq_ok.1 head
      obtain ⟨rfl, columns⟩ := ih
      exact ⟨rfl, List.forall_mem_cons.2 ⟨column, columns⟩⟩
  · rintro ⟨rfl, columns⟩
    exact List.forall₂_same.2 fun name mem => writable_eq_ok.2 ⟨rfl, columns name mem⟩

/-- A row is inserted by one statement. -/
theorem insert_eq_ok {table : TableName} {values : Record} {returning : List Text}
    (h : insert table values returning = .ok sql) :
    ∃ target, Identifier.ofTable table = .ok target ∧
      (∀ name ∈ values.keys, IsColumn name) ∧ (∀ name ∈ returning, IsColumn name) ∧
      sql = insertWith target values.keys (values.keys.map placeholder) returning := by
  unfold insert at h
  split at h
  · cases h
  obtain ⟨names, written, named⟩ := Except.bind_eq_ok.1 h
  obtain ⟨target, isTarget, addressed⟩ := Except.bind_eq_ok.1 named
  obtain ⟨returned, readBack, built⟩ := Except.bind_eq_ok.1 addressed
  obtain ⟨rfl, columns⟩ := mapM_writable_eq_ok.1 written
  obtain ⟨rfl, back⟩ := mapM_writable_eq_ok.1 readBack
  exact ⟨target, isTarget, columns, back, (Except.ok.inj built).symm⟩

/-- A row is changed by one statement, which does not set what it finds the row by. -/
theorem update_eq_ok {table : TableName} {set keys : Record} (h : update table set keys = .ok sql) :
    ∃ target, Identifier.ofTable table = .ok target ∧
      (∀ name ∈ set.keys, IsColumn name) ∧ (∀ name ∈ keys.keys, IsColumn name) ∧
      (∀ name ∈ set.keys, name ∉ keys) ∧
      sql = updateWith target set.keys (set.keys.map placeholder) keys.keys
        (keys.keys.map placeholder) := by
  unfold update at h
  split at h
  · cases h
  split at h
  · cases h
  split at h
  · cases h
  next apart =>
    obtain ⟨target, isTarget, addressed⟩ := Except.bind_eq_ok.1 h
    obtain ⟨changed, written, named⟩ := Except.bind_eq_ok.1 addressed
    obtain ⟨compared, found, built⟩ := Except.bind_eq_ok.1 named
    obtain ⟨rfl, columns⟩ := mapM_writable_eq_ok.1 written
    obtain ⟨rfl, key⟩ := mapM_writable_eq_ok.1 found
    refine ⟨target, isTarget, columns, key, ?_, ?_⟩
    · simpa using List.find?_eq_none.1 apart
    · have same := Except.ok.inj built
      unfold updateWith
      rw [equations_placeholder, equations_placeholder, same]

/-! ## Texts without placeholders -/

/-- The reader of placeholders goes over the text and sees its characters as they are. -/
def Passed (t : Text) : Prop :=
  ∀ rest, piecesAt (.outside false) (t ++ rest) = t.map .plain ++ piecesAt (.outside false) rest

theorem passed_nil : Passed [] := fun _ => rfl

theorem Passed.append (ht : Passed t) (hu : Passed u) : Passed (t ++ u) := by
  intro rest
  rw [List.append_assoc, ht, hu, List.map_append, List.append_assoc]

theorem passed_joined (hs : Passed separator) {parts : List Text} (h : ∀ part ∈ parts, Passed part) :
    Passed (Text.joined separator parts) := by
  induction parts with
  | nil => exact passed_nil
  | cons part parts ih =>
    obtain ⟨first, later⟩ := List.forall_mem_cons.1 h
    cases parts with
    | nil =>
      rw [Text.joined, List.intercalate_singleton]
      exact first
    | cons part' parts =>
      rw [Text.joined_cons_cons]
      exact (first.append hs).append (ih later)

/-- Without a colon or a quote, no placeholder is seen. -/
theorem passed_of_all (h : List.all t (· ∉ [':', '"', '\''])) : Passed t := by
  intro rest
  induction t with
  | nil => rfl
  | cons c t ih =>
    rw [List.all_cons, Bool.and_eq_true, decide_eq_true_eq] at h
    obtain ⟨ordinary, later⟩ := h
    have notQuote : ¬(c = '"' ∨ c = '\'') := by
      rintro (rfl | rfl) <;> simp at ordinary
    have notColon : c ≠ ':' := by
      rintro rfl
      simp at ordinary
    rw [List.cons_append, piecesAt, if_neg notQuote, if_neg fun colon => notColon colon.1,
      decide_eq_false notColon, ih later]
    rfl

theorem piecesAt_quoted {closing : Char} (h : closing ∉ t) (rest : Text) :
    piecesAt (.quoted closing) (t ++ closing :: rest) =
      t.map .plain ++ .plain closing :: piecesAt (.outside false) rest := by
  induction t with
  | nil =>
    rw [List.nil_append, piecesAt, if_pos rfl]
    rfl
  | cons c t ih =>
    rw [List.mem_cons, not_or] at h
    rw [List.cons_append, piecesAt, if_neg (Ne.symm h.1), ih h.2]
    rfl

/-- Between quotes, no placeholder is seen. -/
theorem passed_quote (h : '"' ∉ t) : Passed (Identifier.quote t) := by
  intro rest
  rw [Identifier.quote, List.append_assoc, List.cons_append, List.singleton_append, piecesAt,
    if_pos (.inl rfl), piecesAt_quoted h]
  simp

theorem passed_render (i : Identifier) : Passed i.render := by
  refine passed_joined (passed_of_all (by decide)) (List.forall_mem_map.2 fun segment mem => ?_)
  exact passed_quote (i.quotable segment mem).2.1

theorem IsColumn.passed_quoted {name : Text} (h : IsColumn name) : Passed (quoted name) := by
  refine passed_quote fun mem => ?_
  have := h.2 _ mem
  revert this
  decide

/-! ## Placeholders -/

/-- No name of a placeholder goes on with the text. -/
def EndsName (rest : Text) : Prop := rest.head?.any isNameChar = false

theorem EndsName.append (h : EndsName t) (nonempty : t ≠ []) (rest : Text) :
    EndsName (t ++ rest) := by
  obtain ⟨c, t, rfl⟩ := List.exists_cons_of_ne_nil nonempty
  exact h

theorem takeWhile_isNameChar {name rest : Text} (h : ∀ c ∈ name, isNameChar c)
    (ends : EndsName rest) : (name ++ rest).takeWhile isNameChar = name := by
  rw [List.takeWhile_append_of_pos h]
  cases rest with
  | nil => simp
  | cons c rest => simpa [EndsName, List.takeWhile_cons] using ends

theorem dropWhile_isNameChar {name rest : Text} (h : ∀ c ∈ name, isNameChar c)
    (ends : EndsName rest) : (name ++ rest).dropWhile isNameChar = rest := by
  rw [List.dropWhile_append_of_pos h]
  cases rest with
  | nil => rfl
  | cons c rest =>
    rw [List.dropWhile_cons, if_neg]
    simpa [EndsName] using ends

/-- A text goes on with a letter of a column's name. -/
theorem IsColumn.starts {name : Text} (h : IsColumn name) (rest : Text) :
    (name ++ rest).head?.any isNameChar := by
  obtain ⟨nonempty, valid⟩ := h
  obtain ⟨c, name, rfl⟩ := List.exists_cons_of_ne_nil nonempty
  exact valid c List.mem_cons_self

theorem piecesAt_placeholder {name rest : Text} (h : IsColumn name) (ends : EndsName rest) :
    piecesAt (.outside false) (placeholder name ++ rest) =
      .named name :: piecesAt (.outside false) rest := by
  rw [placeholder, List.cons_append, piecesAt, if_neg (by decide), if_pos ⟨rfl, rfl, h.starts rest⟩,
    takeWhile_isNameChar h.2 ends, dropWhile_isNameChar h.2 ends]

/-- The pieces of placeholders with a text before each of them and a separator between them. -/
def marked (separator : Text) (lead : Text → Text) (columns : List Text) : List Piece :=
  List.intercalate (separator.map .plain)
    (columns.map fun name => (lead name).map .plain ++ [.named name])

theorem marked_cons_cons (separator : Text) (lead : Text → Text) (name name' : Text)
    (columns : List Text) : marked separator lead (name :: name' :: columns) =
      (lead name).map .plain ++ .named name :: separator.map .plain ++
        marked separator lead (name' :: columns) := by
  simp [marked, List.intercalate_cons_cons]

/-- A text without placeholders that keeps the placeholders around it apart. -/
structure Separates (separator : Text) : Prop where
  passed : Passed separator
  nonempty : separator ≠ []
  ends : EndsName separator

theorem separates_comma : Separates ", ".toList :=
  ⟨passed_of_all (by decide), by decide, rfl⟩

theorem separates_and : Separates " AND ".toList :=
  ⟨passed_of_all (by decide), by decide, rfl⟩

/-- The reader meets the placeholders of columns one after the other. -/
theorem piecesAt_joined (hs : Separates separator) (hl : ∀ name ∈ columns, Passed (lead name))
    (hc : ∀ name ∈ columns, IsColumn name) {rest : Text} (last : EndsName rest) :
    piecesAt (.outside false)
        (Text.joined separator (columns.map fun name => lead name ++ placeholder name) ++ rest) =
      marked separator lead columns ++ piecesAt (.outside false) rest := by
  induction columns with
  | nil => rfl
  | cons name columns ih =>
    obtain ⟨passed, hl⟩ := List.forall_mem_cons.1 hl
    obtain ⟨column, hc⟩ := List.forall_mem_cons.1 hc
    cases columns with
    | nil =>
      simp only [List.map_cons, List.map_nil, Text.joined, marked, List.intercalate_singleton]
      rw [List.append_assoc, passed, piecesAt_placeholder column last]
      simp
    | cons name' columns =>
      have split : Text.joined separator
          ((name :: name' :: columns).map fun name => lead name ++ placeholder name) ++ rest =
            lead name ++ (placeholder name ++ (separator ++ (Text.joined separator
              ((name' :: columns).map fun name => lead name ++ placeholder name) ++ rest))) := by
        simp only [List.map_cons, Text.joined_cons_cons, List.append_assoc]
      have apart := hs.ends.append hs.nonempty (Text.joined separator
        ((name' :: columns).map fun name => lead name ++ placeholder name) ++ rest)
      rw [split, passed, piecesAt_placeholder column apart, hs.passed, ih hl hc, marked_cons_cons]
      simp

/-- The reader meets the placeholders of a list. -/
theorem piecesAt_placeholders (hs : Separates separator) (hc : ∀ name ∈ columns, IsColumn name)
    {rest : Text} (last : EndsName rest) :
    piecesAt (.outside false) (Text.joined separator (columns.map placeholder) ++ rest) =
      marked separator (fun _ => []) columns ++ piecesAt (.outside false) rest :=
  @piecesAt_joined separator (fun _ => []) columns hs (fun _ _ => passed_nil) hc rest last

/-- The reader meets the placeholders of equations. -/
theorem piecesAt_equations (hs : Separates separator) (hc : ∀ name ∈ columns, IsColumn name)
    {rest : Text} (last : EndsName rest) :
    piecesAt (.outside false) (equations separator columns (columns.map placeholder) ++ rest) =
      marked separator (fun name => quoted name ++ " = ") columns ++
        piecesAt (.outside false) rest := by
  rw [equations_map]
  exact piecesAt_joined hs
    (fun name mem => (hc name mem).passed_quoted.append (passed_of_all (by decide))) hc last

/-! ## Numbering -/

/-- The marks of `count` values in a row, the first one being `$start`. -/
def numbers (start count : Nat) : List Text :=
  (List.range' start count).map fun k => '$' :: Text.ofNat k

theorem namesFrom_append (known : List Text) (ps qs : List Piece) :
    namesFrom known (ps ++ qs) = namesFrom (namesFrom known ps) qs := by
  fun_induction namesFrom known ps <;> simp_all [namesFrom]

theorem namesFrom_plain (known : List Text) (t : Text) :
    namesFrom known (t.map .plain) = known := by
  induction t with
  | nil => rfl
  | cons c t ih => exact ih

/-- New columns are added to those that are known, in order. -/
theorem namesFrom_marked (new : (known ++ columns).Nodup) :
    namesFrom known (marked separator lead columns) = known ++ columns := by
  induction columns generalizing known with
  | nil => simp [marked, namesFrom]
  | cons name columns ih =>
    have fresh : name ∉ known := fun mem =>
      (List.nodup_append.1 new).2.2 name mem name List.mem_cons_self rfl
    cases columns with
    | nil =>
      simp [marked, namesFrom_append, namesFrom_plain, namesFrom, fresh]
    | cons name' columns =>
      rw [List.append_cons] at new ⊢
      rw [marked_cons_cons, namesFrom_append, namesFrom_append, namesFrom_plain, namesFrom,
        if_neg fresh, namesFrom_plain, ih new]

theorem flatMap_numberedText_plain (all : List Text) (t : Text) :
    (t.map .plain).flatMap (Piece.numberedText all) = t := by
  induction t with
  | nil => rfl
  | cons c t ih => exact congrArg (c :: ·) ih

theorem flatMap_numberedText_marked (all : List Text) (separator : Text) (lead : Text → Text)
    (columns : List Text) : (marked separator lead columns).flatMap (Piece.numberedText all) =
      Text.joined separator
        (columns.map fun name => lead name ++ (Piece.named name).numberedText all) := by
  induction columns with
  | nil => rfl
  | cons name columns ih =>
    cases columns with
    | nil =>
      simp [marked, Text.joined, flatMap_numberedText_plain, Piece.numberedText]
    | cons name' columns =>
      rw [marked_cons_cons, List.flatMap_append, List.flatMap_append, List.flatMap_cons, ih]
      simp only [flatMap_numberedText_plain, List.map_cons, Text.joined_cons_cons,
        Piece.numberedText, List.append_assoc]

/-- Columns that follow each other have numbers that do. -/
theorem map_numberedText_eq_numbers {all : List Text} (nodup : all.Nodup)
    (place : all = before ++ columns ++ after) :
    (columns.map fun name => (Piece.named name).numberedText all) =
      numbers (before.length + 1) columns.length := by
  refine List.ext_getElem (by simp [numbers]) fun i hi _ => ?_
  rw [List.length_map] at hi
  have within : before.length + i < all.length := by grind
  have here : all[before.length + i] = columns[i] := by grind
  have number := nodup.idxOf_getElem (before.length + i) within
  rw [here] at number
  simp only [numbers, Piece.numberedText, List.getElem_map, List.getElem_range', number, Nat.one_mul]
  rw [Nat.add_right_comm]

/-! ## The two statements -/

theorem passed_insertInto (target : Identifier) (h : ∀ name ∈ columns, IsColumn name) :
    Passed (insertInto target columns) := by
  have listed : Passed (Text.joined ", " (columns.map quoted)) :=
    passed_joined (passed_of_all (by decide))
      (List.forall_mem_map.2 fun name mem => (h name mem).passed_quoted)
  exact ((((passed_of_all (by decide)).append (passed_render target)).append
    (passed_of_all (by decide))).append listed).append (passed_of_all (by decide))

theorem passed_readingBack {returning : List Text} (h : ∀ name ∈ returning, IsColumn name) :
    Passed (readingBack returning) := by
  unfold readingBack
  split
  · exact passed_nil
  · refine (passed_of_all (by decide)).append (passed_joined (passed_of_all (by decide)) ?_)
    exact List.forall_mem_map.2 fun name mem =>
      ((passed_of_all (by decide)).append (h name mem).passed_quoted).append
        (passed_of_all (by decide))

/-- The columns of a row that is inserted are numbered in order. -/
theorem numbered_insertWith (target : Identifier) {columns returning : List Text}
    (nodup : columns.Nodup) (hc : ∀ name ∈ columns, IsColumn name)
    (hr : ∀ name ∈ returning, IsColumn name) (values : Record) :
    numbered (insertWith target columns (columns.map placeholder) returning) values =
      (insertWith target columns (numbers 1 columns.length) returning,
        columns.map fun name => values[name]?.join) := by
  let opening := insertInto target columns
  let closing := ")".toList ++ readingBack returning
  have closes : Passed closing :=
    Passed.append (passed_of_all (by decide)) (passed_readingBack hr)
  have split (marks : List Text) : insertWith target columns marks returning =
      opening ++ (Text.joined ", " marks ++ (closing ++ [])) := by
    simp only [insertWith, opening, closing, List.append_assoc, List.append_nil]
  have seen : pieces (insertWith target columns (columns.map placeholder) returning) =
      opening.map .plain ++ (marked ", " (fun _ => []) columns ++ closing.map .plain) := by
    have ends : EndsName (closing ++ []) := rfl
    rw [pieces, split, passed_insertInto target hc, piecesAt_placeholders separates_comma hc ends,
      closes, piecesAt, List.append_nil]
  have named : names (pieces (insertWith target columns (columns.map placeholder) returning)) =
      columns := by
    have new : ([] ++ columns).Nodup := nodup
    rw [seen, names, namesFrom_append, namesFrom_plain, namesFrom_append, namesFrom_plain,
      namesFrom_marked new, List.nil_append]
  have place : columns = [] ++ columns ++ [] := (List.append_nil columns).symm
  have marks : _ = numbers 1 columns.length := map_numberedText_eq_numbers nodup place
  rw [numbered, named, seen, split, ← marks]
  simp only [List.flatMap_append, flatMap_numberedText_plain, flatMap_numberedText_marked,
    List.nil_append, List.append_nil]

/-- The columns that are set are numbered first, then those of the key. -/
theorem numbered_updateWith (target : Identifier) {set keys : List Text}
    (nodup : (set ++ keys).Nodup) (hs : ∀ name ∈ set, IsColumn name)
    (hk : ∀ name ∈ keys, IsColumn name) (values : Record) :
    numbered (updateWith target set (set.map placeholder) keys (keys.map placeholder)) values =
      (updateWith target set (numbers 1 set.length) keys (numbers (set.length + 1) keys.length),
        (set ++ keys).map fun name => values[name]?.join) := by
  let opening := "UPDATE ".toList ++ target.render ++ " SET ".toList
  let lead (name : Text) : Text := quoted name ++ " = "
  have opens : Passed opening :=
    ((passed_of_all (by decide)).append (passed_render target)).append
      (passed_of_all (by decide))
  have between : Passed " WHERE ".toList := passed_of_all (by decide)
  have split (setMarks keyMarks : List Text) : updateWith target set setMarks keys keyMarks =
      opening ++ (equations ", " set setMarks ++
        (" WHERE ".toList ++ (equations " AND " keys keyMarks ++ []))) := by
    unfold updateWith
    simp only [opening, List.append_assoc, List.append_nil]
  have seen : pieces (updateWith target set (set.map placeholder) keys (keys.map placeholder)) =
      opening.map .plain ++ (marked ", " lead set ++
        (" WHERE ".toList.map .plain ++ marked " AND " lead keys)) := by
    have ends (rest : Text) : EndsName (" WHERE ".toList ++ rest) := rfl
    have ended : EndsName [] := rfl
    rw [pieces, split, opens, piecesAt_equations separates_comma hs (ends _), between,
      piecesAt_equations separates_and hk ended, piecesAt, List.append_nil]
  have named :
      names (pieces (updateWith target set (set.map placeholder) keys (keys.map placeholder))) =
        set ++ keys := by
    have new : ([] ++ set).Nodup := (List.nodup_append.1 nodup).1
    rw [seen, names, namesFrom_append, namesFrom_plain, namesFrom_append, namesFrom_marked new,
      List.nil_append,
      namesFrom_append, namesFrom_plain, namesFrom_marked nodup]
  have place : set ++ keys = [] ++ set ++ keys := rfl
  have setMarks : _ = numbers 1 set.length := map_numberedText_eq_numbers nodup place
  have keyMarks : _ = numbers (set.length + 1) keys.length :=
    map_numberedText_eq_numbers nodup (List.append_nil (set ++ keys)).symm
  rw [numbered, named, seen, split, ← setMarks, ← keyMarks, equations_map, equations_map]
  simp only [List.flatMap_append, flatMap_numberedText_plain, flatMap_numberedText_marked,
    List.append_nil, lead]

/-! ## Values -/

/-- Where a record is part of another one, its columns have its own values there. -/
theorem map_join_keys {r values : Record}
    (part : ∀ (name : Text) (v : Value), r[name]? = some v → values[name]? = some v) :
    (r.keys.map fun name => values[name]?.join) = r.toList.map Prod.snd := by
  rw [← Std.ExtTreeMap.map_fst_toList_eq_keys, List.map_map]
  refine List.map_congr_left fun entry mem => ?_
  have found := part _ _ (Std.ExtTreeMap.mem_toList_iff_getElem?_eq_some.1 mem)
  simp [found]

/-- The union of two records without a common column has the values of the first one. -/
theorem getElem?_insertMany_of_disjoint {r keys : Record}
    (apart : ∀ name ∈ r.keys, name ∉ keys) (name : Text) (v : Value) (h : r[name]? = some v) :
    (r.insertMany keys.toList)[name]? = some v := by
  have here : name ∈ r := Std.ExtTreeMap.mem_iff_isSome_getElem?.2 (by simp [h])
  have absent := apart name (Std.ExtTreeMap.mem_keys.2 here)
  rw [Std.ExtTreeMap.getElem?_insertMany_list_of_contains_eq_false, h]
  rw [Std.ExtTreeMap.map_fst_toList_eq_keys]
  simpa using absent

/-- The union of two records has the values of the second one. -/
theorem getElem?_insertMany_toList (r : Record) {keys : Record} (name : Text) (v : Value)
    (h : keys[name]? = some v) : (r.insertMany keys.toList)[name]? = some v :=
  Std.ExtTreeMap.getElem?_insertMany_list_of_mem Std.ReflCmp.compare_self
    Std.ExtTreeMap.distinct_keys_toList (Std.ExtTreeMap.mem_toList_iff_getElem?_eq_some.2 h)

/-- Every column that is written is bound to its own value. Of a row that is inserted, the columns
are numbered in order. Of a row that is changed, the columns that are set come first and those of
the key after them, and all values are found in the union of the two records. -/
theorem prepare_writes :
    (∀ (table : TableName) (values : Record) (returning : List Text) (sql : Text),
      insert table values returning = .ok sql → ∃ target, Identifier.ofTable table = .ok target ∧
        sql = insertWith target values.keys (values.keys.map placeholder) returning ∧
        (Params.named values).prepare sql =
          (insertWith target values.keys (numbers 1 values.size) returning,
            values.toList.map Prod.snd)) ∧
    ∀ (table : TableName) (set keys : Record) (sql : Text),
      update table set keys = .ok sql → ∃ target, Identifier.ofTable table = .ok target ∧
        sql = updateWith target set.keys (set.keys.map placeholder) keys.keys
          (keys.keys.map placeholder) ∧
        (Params.named (set.insertMany keys.toList)).prepare sql =
          (updateWith target set.keys (numbers 1 set.size) keys.keys
            (numbers (set.size + 1) keys.size),
            set.toList.map Prod.snd ++ keys.toList.map Prod.snd) := by
  constructor
  · intro table values returning sql built
    obtain ⟨target, isTarget, columns, back, rfl⟩ := insert_eq_ok built
    refine ⟨target, isTarget, rfl, ?_⟩
    rw [Params.prepare, numbered_insertWith target Std.ExtTreeMap.nodup_keys columns back,
      map_join_keys fun _ _ => id, Std.ExtTreeMap.length_keys]
  · intro table set keys sql built
    obtain ⟨target, isTarget, columns, key, apart, rfl⟩ := update_eq_ok built
    refine ⟨target, isTarget, rfl, ?_⟩
    have nodup : (set.keys ++ keys.keys).Nodup := by
      refine List.nodup_append.2 ⟨Std.ExtTreeMap.nodup_keys, Std.ExtTreeMap.nodup_keys, ?_⟩
      rintro name changed _ compared rfl
      exact apart name changed (Std.ExtTreeMap.mem_keys.1 compared)
    rw [Params.prepare, numbered_updateWith target nodup columns key, List.map_append,
      map_join_keys (getElem?_insertMany_of_disjoint apart),
      map_join_keys (getElem?_insertMany_toList set), Std.ExtTreeMap.length_keys,
      Std.ExtTreeMap.length_keys]

/-- A note in a table whose name holds a colon, a quote and what looks like a number. -/
theorem prepare_writes_awkward :
    let table : TableName := ⟨"a:id", "it's $1"⟩
    let id : Record := (∅ : Record).insert "id".toList (some "7".toList)
    let note : Record := (∅ : Record).insert "note".toList none
    (∃ sql, insert table (id.insertMany note.toList) ["id"] = .ok sql ∧
      (Params.named (id.insertMany note.toList)).prepare sql =
        ("INSERT INTO \"a:id\".\"it's $1\" (\"id\", \"note\") VALUES ($1, $2)".toList ++
          " RETURNING CAST(\"id\" AS text)".toList, [some "7".toList, none])) ∧
    ∃ sql, update table note id = .ok sql ∧
      (Params.named (note.insertMany id.toList)).prepare sql =
        ("UPDATE \"a:id\".\"it's $1\" SET \"note\" = $1 WHERE \"id\" = $2".toList,
          [none, some "7".toList]) := by
  intro table id note
  have named : Identifier.ofTable table =
      .ok ⟨["a:id", "it's $1"], by decide, by simp [IsSegment]⟩ := by decide +kernel
  constructor
  · have built : insert table (id.insertMany note.toList) ["id"] =
        .ok ("INSERT INTO \"a:id\".\"it's $1\" (\"id\", \"note\") VALUES (:id, :note)".toList ++
          " RETURNING CAST(\"id\" AS text)".toList) := by decide +kernel
    obtain ⟨target, isTarget, -, prepared⟩ := prepare_writes.1 _ _ _ _ built
    obtain rfl := Except.ok.inj (named.symm.trans isTarget)
    exact ⟨_, built, prepared.trans (by decide)⟩
  · have built : update table note id =
        .ok "UPDATE \"a:id\".\"it's $1\" SET \"note\" = :note WHERE \"id\" = :id".toList := by
      decide +kernel
    obtain ⟨target, isTarget, -, prepared⟩ := prepare_writes.2 _ _ _ _ built
    obtain rfl := Except.ok.inj (named.symm.trans isTarget)
    exact ⟨_, built, prepared.trans (by decide)⟩

end Sql

end JoinSheet
