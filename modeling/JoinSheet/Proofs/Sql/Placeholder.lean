import JoinSheet.Proofs.Sql.Binding
import Mathlib.Data.List.Induction

/-!
# Where placeholders stand

A reader of a statement keeps three things in mind: whether a quote is open, which one closes it, and
whether a colon came just before. What it takes for a placeholder is said here without it, by what
stands before and after a name in the statement. The names are then numbered in the order in which
they first occur among what was found.

## Main definitions

* `Sql.openQuote` — the quote that is open behind a text.
* `Sql.IsPlaceholder` — what stands around the colon and the name of a placeholder.
* `Sql.Finds` — pieces that have the placeholders of a text where they stand in it, and no others.
* `Sql.FirstOccurrences` — names in the order of their first occurrences among pieces.

## Main statements

* `Sql.finds_pieces` — the reader finds the placeholders of a statement.
* `Sql.firstOccurrences_names` — the names come in the order of their first occurrences.
* `Sql.numbered_placeholders` — numbering replaces the placeholders of a statement, and nothing else.
-/

namespace JoinSheet

namespace Sql

variable {t u front rest name after : Text} {c : Char} {p : Position} {ps qs : List Piece}

/-! ## Quotes and colons before a place -/

/-- The quote that is open behind a character, by the one that is open in front of it. -/
def quoteStep : Option Char → Char → Option Char
  | some closing, c => if c = closing then none else some closing
  | none, c => if isQuote c then some c else none

/-- The quote that is open behind a text, if any. -/
def openQuote (t : Text) : Option Char := t.foldl quoteStep none

theorem openQuote_concat (t : Text) (c : Char) :
    openQuote (t ++ [c]) = quoteStep (openQuote t) c := by
  rw [openQuote, List.foldl_append]
  rfl

theorem isQuote_of_openQuote {closing : Char} (h : openQuote t = some closing) :
    isQuote closing := by
  induction t using List.reverseRecOn with
  | nil => cases h
  | append_singleton t c ih =>
    rw [openQuote_concat] at h
    cases before : openQuote t with
    | none => grind [quoteStep]
    | some current => grind [quoteStep]

/-- No quote opens within what holds none. -/
theorem openQuote_append (closed : openQuote t = none) (h : ∀ c ∈ u, isQuote c = false) :
    openQuote (t ++ u) = none := by
  induction u using List.reverseRecOn with
  | nil => rwa [List.append_nil]
  | append_singleton u c ih =>
    have before := ih fun d mem => h d (List.mem_append_left _ mem)
    have ordinary := h c (List.mem_append_right _ List.mem_cons_self)
    rw [← List.append_assoc, openQuote_concat, before, quoteStep, ordinary]
    rfl

/-- The colon behind `before` and the name behind it are a placeholder: the colon is outside of
quotes and does not follow another one, and the name goes as far as it can. -/
structure IsPlaceholder (before name after : Text) : Prop where
  unquoted : openQuote before = none
  apart : before.getLast? ≠ some ':'
  named : IsColumn name
  ends : EndsName after

theorem IsColumn.not_mem_colon (h : IsColumn name) : ':' ∉ name := by
  intro mem
  have := h.2 _ mem
  revert this
  decide

/-- What stands behind a text is at the position. -/
def Position.Reached : Position → Text → Prop
  | quoted closing, front => openQuote front = some closing
  | outside afterColon, front =>
    openQuote front = none ∧ (afterColon = true ↔ front.getLast? = some ':')

theorem Position.reached_start : Reached (outside false) [] := by
  simp [Reached, openQuote]

/-- Within quotes, a character closes them or leaves them open. -/
theorem Position.Reached.quoted {closing : Char} (h : (quoted closing).Reached front) (c : Char) :
    (if c = closing then outside false else Position.quoted closing).Reached (front ++ [c]) := by
  have opened : openQuote front = some closing := h
  have step : openQuote (front ++ [c]) = quoteStep (some closing) c := by
    rw [openQuote_concat, opened]
  split
  next same =>
    subst same
    have notColon : c ≠ ':' := by
      rintro rfl
      cases isQuote_of_openQuote opened
    simp [Reached, step, quoteStep, notColon]
  next differs => simp [Reached, step, quoteStep, differs]

/-- Outside of quotes, a character opens them or stays outside. -/
theorem Position.Reached.outside {afterColon : Bool} (h : (outside afterColon).Reached front)
    (c : Char) :
    (if isQuote c then Position.quoted c else .outside (c = ':')).Reached (front ++ [c]) := by
  obtain ⟨closed, -⟩ := h
  have step : openQuote (front ++ [c]) = quoteStep none c := by
    rw [openQuote_concat, closed]
  split
  next opens => simp [Reached, step, quoteStep, opens]
  next stays => simp [Reached, step, quoteStep, stays]

/-- Behind a placeholder, the reader is outside of quotes and not behind a colon. -/
theorem Position.Reached.named {afterColon : Bool} (h : (Position.outside afterColon).Reached front)
    (column : IsColumn name) : (Position.outside false).Reached (front ++ ':' :: name) := by
  obtain ⟨nonempty, letters⟩ := column
  refine ⟨openQuote_append h.1 ?_, ?_⟩
  · refine List.forall_mem_cons.2 ⟨rfl, fun c mem => ?_⟩
    exact isQuote_eq_false (not_mem_special (by decide) (letters c mem))
  · obtain ⟨init, last, rfl⟩ := (List.eq_nil_or_concat' name).resolve_left nonempty
    have notColon : last ≠ ':' := by
      rintro rfl
      exact IsColumn.not_mem_colon ⟨nonempty, letters⟩ (by simp)
    rw [← List.cons_append, ← List.append_assoc, List.getLast?_concat]
    simp [notColon]

/-! ## What the reader finds -/

/-- How pieces are written. -/
def spell (ps : List Piece) : Text := ps.flatMap Piece.text

/-- Among the pieces, a placeholder has the texts before and after it. -/
def Stands (ps : List Piece) (before name after : Text) : Prop :=
  ∃ xs ys, ps = xs ++ .named name :: ys ∧ spell xs = before ∧ spell ys = after

theorem stands_cons {x : Piece} {before : Text} : Stands (x :: ps) before name after ↔
    (before = [] ∧ x = .named name ∧ spell ps = after) ∨
      ∃ later, before = x.text ++ later ∧ Stands ps later name after := by
  constructor
  · rintro ⟨xs, ys, whole, rfl, rfl⟩
    cases xs with
    | nil =>
      obtain ⟨rfl, rfl⟩ := List.cons_eq_cons.1 whole
      exact .inl ⟨rfl, rfl, rfl⟩
    | cons x' xs =>
      obtain ⟨rfl, rfl⟩ := List.cons_eq_cons.1 whole
      exact .inr ⟨spell xs, List.flatMap_cons, xs, ys, rfl, rfl, rfl⟩
  · rintro (⟨rfl, rfl, rfl⟩ | ⟨later, rfl, xs, ys, rfl, rfl, rfl⟩)
    · exact ⟨[], ps, rfl, rfl, rfl⟩
    · exact ⟨x :: xs, ys, rfl, List.flatMap_cons, rfl⟩

/-- The pieces have the placeholders of the text where they stand behind `front`, and no others. -/
def Finds (front t : Text) (ps : List Piece) : Prop :=
  ∀ before name after, Stands ps before name after ↔
    t = before ++ ':' :: name ++ after ∧ IsPlaceholder (front ++ before) name after

theorem finds_nil (front : Text) : Finds front [] [] := by
  intro before name after
  simp [Stands]

/-- A character at which no placeholder stands is passed over. -/
theorem Finds.plain (h : Finds (front ++ [c]) t ps)
    (no : ∀ name after, c = ':' → t = name ++ after → ¬ IsPlaceholder front name after) :
    Finds front (c :: t) (.plain c :: ps) := by
  intro before name after
  rw [stands_cons]
  constructor
  · rintro (⟨-, other, -⟩ | ⟨later, rfl, stands⟩)
    · cases other
    · obtain ⟨rfl, isPlaceholder⟩ := (h later name after).1 stands
      exact ⟨rfl, by simpa [Piece.text] using isPlaceholder⟩
  · rintro ⟨split, isPlaceholder⟩
    cases before with
    | nil =>
      obtain ⟨rfl, rfl⟩ := List.cons_eq_cons.1 split
      exact absurd (by simpa using isPlaceholder) (no name after rfl rfl)
    | cons c' later =>
      obtain ⟨rfl, rfl⟩ := List.cons_eq_cons.1 split
      exact .inr ⟨later, rfl, (h later name after).2 ⟨rfl, by simpa using isPlaceholder⟩⟩

/-- A placeholder is found whole, and the search goes on behind it. -/
theorem Finds.named (h : Finds (front ++ ':' :: name) rest ps)
    (isPlaceholder : IsPlaceholder front name rest) (spelled : spell ps = rest) :
    Finds front (':' :: (name ++ rest)) (.named name :: ps) := by
  intro before name' after
  rw [stands_cons]
  constructor
  · rintro (⟨rfl, same, rfl⟩ | ⟨later, rfl, stands⟩)
    · obtain rfl := Piece.named.inj same
      exact ⟨by simp [spelled], by simpa [spelled] using isPlaceholder⟩
    · obtain ⟨rfl, found⟩ := (h later name' after).1 stands
      exact ⟨by simp [Piece.text], by simpa [Piece.text] using found⟩
  · rintro ⟨split, found⟩
    cases before with
    | nil =>
      -- Two names that both go as far as they can are the same.
      have same : name ++ rest = name' ++ after := (List.cons_eq_cons.1 split).2
      have taken := congrArg (List.takeWhile isNameChar) same
      rw [takeWhile_isNameChar isPlaceholder.named.2 isPlaceholder.ends,
        takeWhile_isNameChar found.named.2 found.ends] at taken
      subst taken
      exact .inl ⟨rfl, rfl, spelled.trans (List.append_cancel_left same)⟩
    | cons c' before =>
      obtain ⟨rfl, split⟩ := List.cons_eq_cons.1 split
      have behind : name ++ rest = before ++ (':' :: name' ++ after) := by simpa using split
      -- The colon of another placeholder is not among the letters of this name.
      obtain ⟨later, rfl, rfl⟩ : ∃ later, before = name ++ later ∧
          rest = later ++ ':' :: name' ++ after := by
        obtain ⟨later, rfl, rfl⟩ | ⟨m, rfl, tail⟩ := List.append_eq_append_iff.1 behind
        · exact ⟨later, rfl, by simp⟩
        · cases m with
          | nil => exact ⟨[], by simp, by simpa using tail.symm⟩
          | cons d m =>
            obtain ⟨rfl, -⟩ := List.cons_eq_cons.1 tail
            exact absurd (by simp) isPlaceholder.named.not_mem_colon
      exact .inr ⟨later, by simp [Piece.text],
        (h later name' after).2 ⟨rfl, by simpa using found⟩⟩

theorem isPlaceholder_takeWhile (reached : (Position.outside false).Reached front)
    (starts : rest.head?.any isNameChar) :
    IsPlaceholder front (rest.takeWhile isNameChar) (rest.dropWhile isNameChar) where
  unquoted := reached.1
  apart colon := by simpa using reached.2.2 colon
  named := by
    refine ⟨?_, List.all_eq_true.1 List.all_takeWhile⟩
    cases rest with
    | nil => cases starts
    | cons c rest =>
      have letter : isNameChar c := starts
      simp [letter]
  ends := by
    have stops := List.head?_dropWhile_not isNameChar rest
    unfold EndsName
    cases first : (rest.dropWhile isNameChar).head? with
    | none => rfl
    | some c =>
      rw [first] at stops
      simpa using stops

/-- From every position, the reader finds the placeholders of what follows. -/
theorem finds_piecesAt (reached : p.Reached front) : Finds front t (piecesAt p t) := by
  fun_induction piecesAt p t generalizing front with
  | case1 => exact finds_nil front
  | case2 closing c rest ih =>
    refine (ih (reached.quoted c)).plain fun name after _ _ isPlaceholder => ?_
    exact absurd (reached.symm.trans isPlaceholder.unquoted) (by simp)
  | case3 afterColon c rest opens ih =>
    have quote : isQuote c := by simpa [isQuote] using opens
    have next := reached.outside c
    rw [if_pos quote] at next
    refine (ih next).plain fun _ _ colon => ?_
    rw [colon] at quote
    cases quote
  | case4 afterColon c rest notQuote starts ih =>
    obtain ⟨rfl, rfl, starts⟩ := starts
    have isPlaceholder := isPlaceholder_takeWhile reached starts
    have later := ih (reached.named isPlaceholder.named)
    have found := later.named isPlaceholder (flatMap_text_piecesAt _ _)
    rwa [List.takeWhile_append_dropWhile] at found
  | case5 afterColon c rest notQuote notNamed ih =>
    have ordinary : ¬ isQuote c := by simpa [isQuote] using notQuote
    have next := reached.outside c
    rw [if_neg ordinary] at next
    refine (ih next).plain fun name after colon split isPlaceholder => notNamed ⟨colon, ?_, ?_⟩
    · have apart := mt reached.2.1 isPlaceholder.apart
      simpa using apart
    · rw [split]
      exact isPlaceholder.named.starts after

/-- The reader finds the placeholders of a statement, each where it stands, and no others. -/
theorem finds_pieces (sql : Text) : Finds [] sql (pieces sql) :=
  finds_piecesAt Position.reached_start

/-! ## The order of the names -/

/-- The names are those of the placeholders among the pieces, in the order in which these first
occur. -/
structure FirstOccurrences (ps : List Piece) (order : List Text) : Prop where
  mem_iff : ∀ name, name ∈ order ↔ .named name ∈ ps
  ordered : order.Pairwise fun name name' => ps.idxOf (.named name) < ps.idxOf (.named name')

theorem FirstOccurrences.nodup {order : List Text} (h : FirstOccurrences ps order) :
    order.Nodup :=
  h.ordered.imp fun earlier same => by
    subst same
    exact Nat.lt_irrefl _ earlier

theorem names_concat_plain (ps : List Piece) (c : Char) : names (ps ++ [.plain c]) = names ps := by
  rw [names, namesFrom_append]
  rfl

theorem names_concat_named (ps : List Piece) (name : Text) : names (ps ++ [.named name]) =
    if name ∈ names ps then names ps else names ps ++ [name] := by
  rw [names, namesFrom_append]
  rfl

/-- Names keep their places when another piece follows. -/
theorem FirstOccurrences.ordered_concat {order : List Text} (h : FirstOccurrences ps order)
    (x : Piece) : order.Pairwise fun name name' =>
      (ps ++ [x]).idxOf (.named name) < (ps ++ [x]).idxOf (.named name') := by
  refine h.ordered.imp_of_mem fun {name name'} mem mem' earlier => ?_
  rwa [List.idxOf_append_of_mem ((h.mem_iff name).1 mem),
    List.idxOf_append_of_mem ((h.mem_iff name').1 mem')]

theorem firstOccurrences_names (ps : List Piece) : FirstOccurrences ps (names ps) := by
  induction ps using List.reverseRecOn with
  | nil => exact ⟨by simp [names, namesFrom], .nil⟩
  | append_singleton ps x ih =>
    cases x with
    | plain c =>
      rw [names_concat_plain]
      exact ⟨fun name => by simp [ih.mem_iff], ih.ordered_concat _⟩
    | named new =>
      rw [names_concat_named]
      split
      next known =>
        refine ⟨fun name => ?_, ih.ordered_concat _⟩
        have known' := (ih.mem_iff new).1 known
        simp only [ih.mem_iff, List.mem_append, List.mem_singleton, Piece.named.injEq]
        exact ⟨.inl, fun either => either.elim id (by rintro rfl; exact known')⟩
      next fresh =>
        refine ⟨fun name => by simp [ih.mem_iff], List.pairwise_append.2 ⟨ih.ordered_concat _,
          List.pairwise_singleton _ _, fun name mem name' last => ?_⟩⟩
        obtain rfl := List.mem_singleton.1 last
        have earlier := (ih.mem_iff name).1 mem
        rw [List.idxOf_append_of_mem earlier,
          List.idxOf_append_of_notMem (mt (ih.mem_iff _).2 fresh)]
        have := List.idxOf_lt_length_of_mem earlier
        omega

/-! ## The numbered statement -/

/-- A statement is cut into characters that are left as they are and the placeholders that stand
outside of quotes, not behind a colon and as long as they can be. Each placeholder becomes the number
of its name, by first occurrence, and the values of the names are bound in that order, a name without
one to nothing. -/
theorem numbered_placeholders (sql : Text) (values : Record) :
    ∃ (ps : List Piece) (order : List Text) (mark : Piece → Text),
      spell ps = sql ∧
      (∀ before name after, Stands ps before name after ↔
        sql = before ++ ':' :: name ++ after ∧ IsPlaceholder before name after) ∧
      FirstOccurrences ps order ∧
      (∀ c, mark (.plain c) = [c]) ∧
      (∀ k name, order[k]? = some name → mark (.named name) = '$' :: Text.ofNat (k + 1)) ∧
      numbered sql values = (ps.flatMap mark, order.map fun name => values[name]?.join) := by
  have first := firstOccurrences_names (pieces sql)
  refine ⟨pieces sql, names (pieces sql), Piece.numberedText (names (pieces sql)),
    flatMap_text_piecesAt _ _, finds_pieces sql, first, fun _ => rfl, fun k name place => ?_, rfl⟩
  obtain ⟨within, rfl⟩ := List.getElem?_eq_some_iff.1 place
  rw [Piece.numberedText, first.nodup.idxOf_getElem k within]

/-- Casts and quoted texts stay, and placeholders may touch. -/
example : (numbered "x::int = :a AND ':b' < :c_d:a" ∅).1 =
    ("x::int = $1 AND ':b' < $2$1" : Text) := by
  decide +kernel

end Sql

end JoinSheet
