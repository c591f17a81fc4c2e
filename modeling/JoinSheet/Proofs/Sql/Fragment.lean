import JoinSheet.Proofs.Sql.Quoting
import JoinSheet.Proofs.Success

/-!
# Fragments are confined

Every fragment that is read from supplied texts is spelled by allowed elements: a name by its
segments between double quotes, a constant by its numbers, its texts and the marks between them.

## Main results

* `Sql.confined_identifier`, `Sql.confined_constant` — names and constants.
* `Sql.confined_projection`, `Sql.confined_condition`, `Sql.confined_orderTerm` — fragments.
-/

namespace JoinSheet

/-! ## Texts in parts -/

namespace Text

theorem joined_cons_cons (separator s t : Text) (parts : List Text) :
    joined separator (s :: t :: parts) = s ++ separator ++ joined separator (t :: parts) := by
  simp [joined, List.intercalate, List.intersperse]

theorem split_of_not_mem {sep : Char} {t : Text} (h : sep ∉ t) : split sep t = [t] := by
  induction t with
  | nil => rfl
  | cons c t ih =>
    rw [List.mem_cons, not_or] at h
    rw [split, if_neg (Ne.symm h.1), ih h.2]

/-- The parts of a text, joined again. -/
theorem joined_split (sep : Char) (t : Text) : joined [sep] (split sep t) = t := by
  induction t with
  | nil => rfl
  | cons c t ih =>
    obtain ⟨part, parts, h⟩ := List.exists_cons_of_ne_nil (split_ne_nil sep t)
    rw [h] at ih
    by_cases hc : c = sep
    · rw [split, if_pos hc, h, joined_cons_cons, ih, hc]
      rfl
    · rw [split, if_neg hc, h]
      cases parts with
      | nil =>
        rw [← ih]
        simp [joined, List.intercalate]
      | cons part' parts =>
        simp only [joined_cons_cons] at ih ⊢
        rw [← ih]
        rfl

theorem split_append (sep : Char) (a b : Text) :
    split sep (a ++ sep :: b) = split sep a ++ split sep b := by
  induction a with
  | nil => simp [split]
  | cons c a ih =>
    obtain ⟨part, parts, h⟩ := List.exists_cons_of_ne_nil (split_ne_nil sep a)
    rw [List.cons_append, split, split, ih, h]
    by_cases same : c = sep <;> simp [same]

/-- Parts without the separator are what it separates. -/
theorem split_joined {sep : Char} {parts : List Text} (written : parts ≠ [])
    (absent : ∀ part ∈ parts, sep ∉ part) :
    split sep (joined [sep] parts) = parts := by
  induction parts with
  | nil => exact absurd rfl written
  | cons part parts ih =>
    obtain ⟨first, later⟩ := List.forall_mem_cons.1 absent
    cases parts with
    | nil =>
      have alone : joined [sep] [part] = part := List.intercalate_singleton
      rw [alone, split_of_not_mem first]
    | cons part' parts =>
      rw [joined_cons_cons, List.append_assoc, List.singleton_append, split_append,
        split_of_not_mem first, ih (List.cons_ne_nil _ _) later, List.singleton_append]

/-- A text is its trimmed form with blanks around it. -/
theorem exists_blanks (t : Text) :
    ∃ before after, t = before ++ t.trim ++ after ∧ ∀ c ∈ before ++ after, isBlank c := by
  refine ⟨t.takeWhile isBlank, trailing isBlank (t.dropWhile isBlank), ?_, fun c hc => ?_⟩
  · rw [trim, List.append_assoc, dropTrailing_append_trailing, List.takeWhile_append_dropWhile]
  · obtain hc | hc := List.mem_append.1 hc
    · exact (List.all_eq_true.1 List.all_takeWhile) c hc
    · rw [trailing, List.mem_reverse] at hc
      exact (List.all_eq_true.1 List.all_takeWhile) c hc

end Text

theorem Constant.eq_of_between? {first last : Char} {t inner : Text}
    (h : between? first last t = some inner) : t = first :: inner ++ [last] := by
  unfold between? at h
  split at h
  next ends =>
    obtain ⟨long, starts, ends⟩ := ends
    cases h
    cases t with
    | nil => cases starts
    | cons c t =>
      cases starts
      cases t with
      | nil => simp at long
      | cons d t =>
        rw [List.getLast?_cons_cons] at ends
        rw [List.drop_one, List.tail_cons, List.cons_append]
        exact congrArg _ (List.dropLast_append_getLast? last ends).symm
  · cases h

namespace Sql

variable {supplied : Supplied} {s t : Text}

/-! ## Confined texts -/

theorem confined_nil : Confined supplied [] := ⟨[], by simp, rfl⟩

theorem Confined.append (hs : Confined supplied s) (ht : Confined supplied t) :
    Confined supplied (s ++ t) := by
  obtain ⟨xs, hxs, rfl⟩ := hs
  obtain ⟨ys, hys, rfl⟩ := ht
  exact ⟨xs ++ ys, List.forall_mem_append.2 ⟨hxs, hys⟩, List.flatMap_append⟩

theorem confined_element {e : Element} (h : e.Allowed supplied) : Confined supplied e.text :=
  ⟨[e], List.forall_mem_singleton.2 h, by simp⟩

theorem confined_word {word : String} (h : word ∈ words) :
    Confined supplied word.toList :=
  confined_element (e := .fixed word.toList) ⟨word, h, rfl⟩

/-- A text with a word of the statement's own behind it. -/
theorem Confined.append_word {word : String} (hs : Confined supplied s) (h : word ∈ words) :
    Confined supplied (s ++ word.toList) :=
  hs.append (confined_word h)

theorem confined_joined {separator : Text} {parts : List Text}
    (hs : Confined supplied separator) (h : ∀ part ∈ parts, Confined supplied part) :
    Confined supplied (Text.joined separator parts) := by
  induction parts with
  | nil => exact confined_nil
  | cons part parts ih =>
    obtain ⟨first, later⟩ := List.forall_mem_cons.1 h
    cases parts with
    | nil =>
      rw [Text.joined, List.intercalate, List.intersperse, List.flatten_singleton]
      exact first
    | cons part' parts =>
      rw [Text.joined_cons_cons]
      exact (first.append hs).append (ih later)

theorem confined_flatten {parts : List Text} (h : ∀ part ∈ parts, Confined supplied part) :
    Confined supplied parts.flatten := by
  induction parts with
  | nil => exact confined_nil
  | cons part parts ih =>
    obtain ⟨first, later⟩ := List.forall_mem_cons.1 h
    exact first.append (ih later)

theorem confined_marks {o : Text} (ho : o ∈ supplied.operands)
    (marks : ∀ c ∈ t, c ∈ ['(', ')', ','] ∨ isBlank c) (h : ∀ c ∈ t, c ∈ o) :
    Confined supplied t := by
  refine ⟨t.map .mark, ?_, ?_⟩
  · intro e he
    obtain ⟨c, hc, rfl⟩ := List.mem_map.1 he
    exact ⟨marks c hc, o, ho, h c hc⟩
  · simp [List.flatMap_map, Element.text]

/-! ## Names and constants -/

theorem segments_of_read {i : Identifier} (h : Identifier.read t = .ok i) :
    i.segments = t.split '.' := by
  unfold Identifier.read at h
  split at h
  · cases h
  · split at h
    · cases h
    · split at h
      · cases h
        rfl
      · cases h

/-- A supplied name stands between quotes segment by segment. -/
theorem confined_identifier {i : Identifier} (h : Identifier.read t = .ok i)
    (ht : t ∈ supplied.identifiers) : Confined supplied i.render := by
  refine confined_joined (confined_word (by decide)) fun part hp => ?_
  obtain ⟨name, hn, rfl⟩ := List.mem_map.1 hp
  refine confined_element (e := .segment name) ⟨i.quotable name hn, .inr ⟨t, ht, ?_⟩⟩
  rwa [← segments_of_read h]

/-- A constant is written as it is supplied. The induction is on its nesting; `o` is the constant
that all of it comes from. -/
theorem confined_constant {o raw : Text} (ho : o ∈ supplied.operands) (h : isConstant raw)
    (leaves : ∀ leaf, HasLeaf raw leaf → HasLeaf o leaf) (within : ∀ c ∈ raw, c ∈ o) :
    Confined supplied raw := by
  induction size : raw.length using Nat.strongRecOn generalizing raw with
  | _ n ih =>
    obtain ⟨before, after, whole, blanks⟩ := raw.exists_blanks
    have around {blank : Text} (hb : blank ⊆ before ++ after) (hr : blank ⊆ raw) :
        Confined supplied blank :=
      confined_marks ho (fun c hc => .inr (blanks c (hb hc))) fun c hc => within c (hr hc)
    have trimmed : ∀ c ∈ raw.trim, c ∈ o := by
      intro c hc
      refine within c ?_
      rw [whole]
      simp [hc]
    suffices inner : Confined supplied raw.trim by
      rw [whole]
      refine ((around (by simp) ?_).append inner).append (around (by simp) ?_)
      · rw [whole, List.append_assoc]
        exact List.subset_append_left _ _
      · rw [whole]
        exact List.subset_append_right _ _
    rw [isConstant, Bool.or_eq_true, Bool.or_eq_true] at h
    obtain (number | text) | list := h
    · exact confined_element (e := .number raw.trim) ⟨number, o, ho, leaves _ (.leaf (.inl number))⟩
    · have simple := leaves _ (.leaf (.inr text))
      obtain ⟨content, isBetween, noQuote⟩ := (Option.any_eq_true _ _).1 text
      rw [Constant.eq_of_between? isBetween] at simple ⊢
      exact confined_element (e := .literal content) ⟨by simpa using noQuote, o, ho, simple⟩
    · split at list
      · cases list
      next inner isBetween =>
        have bounds := Constant.eq_of_between? isBetween
        obtain ⟨-, parts⟩ := Bool.and_eq_true_iff.1 list
        have mark {c : Char} (isMark : c ∈ ['(', ')', ',']) (hc : c ∈ raw.trim) :
            Confined supplied [c] :=
          confined_marks ho (fun c' hc' => .inl (List.mem_singleton.1 hc' ▸ isMark))
            fun c' hc' => List.mem_singleton.1 hc' ▸ trimmed c hc
        have each : ∀ part ∈ inner.split ',', Confined supplied part := by
          intro part hp
          have shorter := Text.length_le_of_mem_split hp
          have length := Constant.length_of_between? isBetween
          have trim := Text.length_trim_le raw
          refine ih part.length (by omega) ?_
            (fun leaf hl => leaves leaf (.part isBetween hp hl)) ?_ rfl
          · simp only [List.all_eq_true, List.mem_attach, true_implies, Subtype.forall] at parts
            exact parts part hp
          · intro c hc
            refine trimmed c ?_
            rw [bounds]
            simp [(Text.mem_of_mem_split hp hc).1]
        have inside : Confined supplied inner := by
          by_cases comma : ',' ∈ inner
          · rw [← Text.joined_split ',' inner]
            exact confined_joined (mark (by decide) (by rw [bounds]; simp [comma])) each
          · rw [Text.split_of_not_mem comma] at each
            exact each inner List.mem_cons_self
        rw [bounds]
        exact ((mark (by decide) (by rw [bounds]; simp)).append inside).append
          (mark (by decide) (by rw [bounds]; simp))

/-! ## Fragments -/

/-- A side of a condition is a constant or a name. -/
theorem confined_operand {o : Operand} (h : Operand.read t = .ok o)
    (isName : t.trim ∈ supplied.identifiers) (isOperand : t.trim ∈ supplied.operands) :
    Confined supplied o.render := by
  unfold Operand.read at h
  split at h
  next isConstant =>
    cases h
    exact confined_constant isOperand isConstant (fun _ => id) fun _ => id
  · obtain ⟨name, read, rfl⟩ := Except.map_eq_ok.1 h
    exact confined_identifier read isName

theorem confined_castType (type : CastType) : Confined supplied type.toText := by
  cases type <;> exact confined_word (by decide)

theorem confined_comparison (c : Comparison) : Confined supplied c.toText := by
  cases c <;> exact confined_word (by decide)

theorem confined_projection {column : Text} {cast label : Option Text} {p : Projection}
    (h : Projection.read column cast label = .ok p) (hc : column ∈ supplied.identifiers)
    (hl : ∀ l ∈ label, l ∈ supplied.identifiers) : Confined supplied p.render := by
  obtain ⟨name, isName, h⟩ := Except.bind_eq_ok.1 h
  obtain ⟨type, -, h⟩ := Except.bind_eq_ok.1 h
  obtain ⟨newName, isNewName, h⟩ := Except.bind_eq_ok.1 h
  cases h
  have plain := confined_identifier isName hc
  have value (type : Option CastType) :
      Confined supplied (Projection.render ⟨name, type, none⟩) := by
    cases type with
    | none => exact plain
    | some type =>
      exact ((((confined_word (by decide)).append plain).append_word (by decide)).append
        (confined_castType type)).append_word (by decide)
  cases newName with
  | none => exact value type
  | some newName =>
    have renamed : Projection.render ⟨name, type, some newName⟩ =
        Projection.render ⟨name, type, none⟩ ++ " AS ".toList ++ newName.render := by
      cases type <;> rfl
    cases label with
    | none => cases isNewName
    | some label =>
      obtain ⟨_, isNewName, same⟩ := Except.bind_eq_ok.1 isNewName
      cases same
      unfold Projection.readLabel at isNewName
      split at isNewName
      · cases isNewName
      · rw [renamed]
        exact ((value type).append_word (by decide)).append
          (confined_identifier isNewName (hl label rfl))

theorem confined_clause {c : Clause} (left : Confined supplied c.left.render)
    (right : Confined supplied c.right.render) : Confined supplied c.render := by
  have blank : Confined supplied " ".toList := confined_word (by decide)
  exact (left.append (blank.append (confined_comparison c.comparison))).append (blank.append right)

/-- The operands that a condition is supplied with, without the blanks around them. -/
def operandsOf : ConditionDraft → List Text
  | .filter left filter =>
    left.trim :: (Comparison.split? filter.trim).toList.map fun x => x.2.trim.trim
  | .compare left _ right => [left.trim, right.trim]

theorem confined_condition {d : ConditionDraft} {c : Clause} (h : d.read = .ok c)
    (names : ∀ o ∈ operandsOf d, o ∈ supplied.identifiers)
    (operands : ∀ o ∈ operandsOf d, o ∈ supplied.operands) : Confined supplied c.render := by
  have operand {raw : Text} {o : Operand} (read : Operand.read raw = .ok o)
      (mem : raw.trim ∈ operandsOf d) : Confined supplied o.render :=
    confined_operand read (names _ mem) (operands _ mem)
  cases d with
  | compare left operator right =>
    obtain ⟨comparison, -, h⟩ := Except.bind_eq_ok.1 h
    obtain ⟨l, hl, h⟩ := Except.bind_eq_ok.1 h
    obtain ⟨r, hr, h⟩ := Except.bind_eq_ok.1 h
    cases h
    exact confined_clause (operand hl (by simp [operandsOf])) (operand hr (by simp [operandsOf]))
  | filter left filter =>
    have h : Clause.ofFilter left filter = .ok c := h
    simp only [Clause.ofFilter] at h
    split at h
    · cases h
    next comparison right parts =>
      split at h
      · cases h
      · obtain ⟨l, hl, h⟩ := Except.bind_eq_ok.1 h
        obtain ⟨r, hr, h⟩ := Except.bind_eq_ok.1 h
        cases h
        exact confined_clause (operand hl (by simp [operandsOf]))
          (operand hr (by simp [operandsOf, parts]))

theorem confined_orderTerm {column : Text} {ascending : Bool} {o : OrderTerm}
    (h : OrderTerm.read column ascending = .ok o) (hc : column ∈ supplied.identifiers) :
    Confined supplied o.render := by
  obtain ⟨name, isName, rfl⟩ := Except.map_eq_ok.1 h
  refine (confined_identifier isName hc).append ?_
  cases ascending with
  | true => exact confined_word (by decide)
  | false => exact confined_word (by decide)

/-- A column may be written if it consists of letters and underscores. -/
theorem writable_eq_ok {name : Text} :
    writable t = .ok name ↔ name = t ∧ t ≠ [] ∧ ∀ c ∈ t, isNameChar c := by
  unfold writable
  rw [← List.all_eq_true]
  split
  next valid => exact ⟨fun h => ⟨(Except.ok.inj h).symm, valid⟩, fun h => by rw [h.1]⟩
  next invalid => exact ⟨nofun, fun h => absurd h.2 invalid⟩

/-- A column that may be written, between quotes. -/
theorem confined_quoted {name : Text} (h : writable t = .ok name) (ht : t ∈ supplied.identifiers) :
    Confined supplied (quoted name) := by
  obtain ⟨rfl, nonempty, valid⟩ := writable_eq_ok.1 h
  have absent {c : Char} (hc : isNameChar c = false) : c ∉ name := by
    intro mem
    rw [valid c mem] at hc
    cases hc
  have noPoint := absent (c := '.') (by decide)
  refine confined_element (e := .segment name) ⟨⟨nonempty, absent (by decide), noPoint⟩, .inr ?_⟩
  exact ⟨name, ht, by rw [Text.split_of_not_mem noPoint]; exact List.mem_cons_self⟩

theorem confined_placeholder {name : Text} (h : writable t = .ok name) :
    Confined supplied (placeholder name) := by
  obtain ⟨rfl, nonempty, valid⟩ := writable_eq_ok.1 h
  exact confined_element (e := .placeholder name) ⟨nonempty, valid⟩

end Sql

end JoinSheet
