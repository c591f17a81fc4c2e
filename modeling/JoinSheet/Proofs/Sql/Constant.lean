import JoinSheet.Proofs.Number.Reading
import JoinSheet.Proofs.Sql.Fragment

/-!
# Which texts are constants

A list is read in pieces between all its commas, also those within quotes and within the lists in
it. So the texts that are taken for constants are those of the grammar in which the elements of
lists hold no comma: every one of them is a constant, and a list of constants is missed exactly if
one of its elements is missed or holds a comma.

What a comma separates is told by a reader of quotes: outside of quoted runs, the parentheses of a
constant match, and there is none of its commas where no parenthesis is open.

## Main definitions

* `Constant.IsNumeral` — the numbers.
* `Constant.Derives` — the constants, where some texts may be elements of lists.
* `Constant.Closed` — runs whose parentheses match, with every comma within some of them.

## Main statements

* `Constant.isConstant_iff` — reading by cases.
* `Constant.Derives.closed` — a constant is closed.
* `isConstant_grammar` — the texts that are taken for constants.
-/

namespace JoinSheet

/-! ## Blanks around a text -/

namespace Text

variable {before after t : Text}

theorem dropTrailing_append_of_forall {p : Char → Bool} (h : ∀ c ∈ after, p c) (t : Text) :
    dropTrailing p (t ++ after) = dropTrailing p t := by
  rw [dropTrailing, List.reverse_append, List.dropWhile_append_of_pos (by simpa using h),
    dropTrailing]

/-- Blanks around a text are trimmed. -/
theorem trim_append_append (blank : ∀ c ∈ before ++ after, isBlank c) (t : Text) :
    (before ++ t ++ after).trim = t.trim := by
  rw [List.forall_mem_append] at blank
  obtain ⟨first, last⟩ := blank
  rw [trim, trim, List.append_assoc, List.dropWhile_append_of_pos first]
  by_cases empty : ∀ c ∈ t, isBlank c
  · have gone : t.dropWhile isBlank = [] := List.dropWhile_eq_nil_iff.2 empty
    have all : (t ++ after).dropWhile isBlank = [] :=
      List.dropWhile_eq_nil_iff.2 (List.forall_mem_append.2 ⟨empty, last⟩)
    rw [gone, all]
  · have left : t.dropWhile isBlank ≠ [] := fun none => empty (List.dropWhile_eq_nil_iff.1 none)
    rw [List.dropWhile_append, if_neg (by simpa using left), dropTrailing_append_of_forall last]

theorem trim_eq_nil_iff : t.trim = [] ↔ ∀ c ∈ t, isBlank c := by
  constructor
  · intro empty
    obtain ⟨before, after, whole, blank⟩ := t.exists_blanks
    rw [empty, List.append_nil] at whole
    rwa [whole]
  · intro blank
    rw [trim, List.dropWhile_eq_nil_iff.2 blank]
    rfl

/-- Between two characters that are no blanks there is nothing to trim. -/
theorem trim_between {c d : Char} (hc : isBlank c = false) (hd : isBlank d = false) (t : Text) :
    trim (c :: t ++ [d]) = c :: t ++ [d] := by
  rw [trim, List.cons_append, List.dropWhile_cons_of_neg (by simp [hc]), dropTrailing]
  simp [hd]

end Text

namespace Constant

variable {first last : Char} {t inner a b : Text} {parts : List Text} {allowed : Text → Prop}

theorem between?_eq_some : between? first last t = some inner ↔ t = first :: inner ++ [last] := by
  refine ⟨eq_of_between?, ?_⟩
  rintro rfl
  rw [between?, if_pos ⟨by simp, rfl, List.getLast?_concat⟩]
  simp

/-! ## Numbers -/

/-- An optional minus sign, digits, and an optional fraction. -/
def IsNumeral (t : Text) : Prop :=
  ∃ sign whole fraction, t = sign ++ whole ++ fraction ∧ (sign = [] ∨ sign = ['-']) ∧
    whole.IsDigits ∧ (fraction = [] ∨ ∃ digits : Text, digits.IsDigits ∧ fraction = '.' :: digits)

theorem isDigits_iff : isDigits t ↔ t.IsDigits := by
  simp only [isDigits, Bool.and_eq_true, decide_eq_true_eq, List.all_eq_true]
  constructor
  · rintro ⟨written, all⟩
    exact ⟨written, all⟩
  · exact fun h => ⟨h.written, h.all⟩

theorem isUnsigned_iff : isUnsigned t ↔ ∃ whole fraction, t = whole ++ fraction ∧ whole.IsDigits ∧
    (fraction = [] ∨ ∃ digits : Text, digits.IsDigits ∧ fraction = '.' :: digits) := by
  constructor
  · intro h
    unfold isUnsigned at h
    split at h
    next => exact ⟨t, [], (List.append_nil t).symm, isDigits_iff.1 h, .inl rfl⟩
    next whole digits cut =>
      obtain ⟨hw, hd⟩ := Bool.and_eq_true_iff.1 h
      exact ⟨whole, '.' :: digits, Text.append_of_cut? cut, isDigits_iff.1 hw,
        .inr ⟨digits, isDigits_iff.1 hd, rfl⟩⟩
  · rintro ⟨whole, _, rfl, hw, rfl | ⟨digits, hd, rfl⟩⟩
    · rw [List.append_nil, isUnsigned, Text.cut?_eq_none.2 (hw.not_mem rfl)]
      exact isDigits_iff.2 hw
    · rw [isUnsigned, Text.cut?_append (hw.not_mem rfl)]
      exact Bool.and_eq_true_iff.2 ⟨isDigits_iff.2 hw, isDigits_iff.2 hd⟩

theorem isNumber_iff : isNumber t ↔ IsNumeral t := by
  constructor
  · intro h
    obtain ⟨u, unsigned, sign⟩ := Sql.unsigned_of_isNumber h
    obtain ⟨whole, fraction, rfl, hw, hf⟩ := isUnsigned_iff.1 unsigned
    obtain rfl | rfl := sign
    · exact ⟨[], whole, fraction, rfl, .inl rfl, hw, hf⟩
    · exact ⟨['-'], whole, fraction, rfl, .inr rfl, hw, hf⟩
  · rintro ⟨_, whole, fraction, rfl, rfl | rfl, hw, hf⟩
    · have unsigned := isUnsigned_iff.2 ⟨whole, fraction, rfl, hw, hf⟩
      obtain ⟨⟨d, rest, same, digit⟩, -⟩ := Sql.digits_of_isUnsigned unsigned
      rw [List.nil_append]
      rw [same] at unsigned ⊢
      unfold isNumber
      split
      next minus =>
        obtain ⟨rfl, -⟩ := List.cons_eq_cons.1 minus
        cases digit
      next => exact unsigned
    · exact isUnsigned_iff.2 ⟨whole, fraction, rfl, hw, hf⟩

theorem isMark_of_isNumber (h : isNumber t) : ∀ c ∈ t, Numeral.IsMark c := by
  obtain ⟨u, unsigned, sign⟩ := Sql.unsigned_of_isNumber h
  have marks : ∀ c ∈ u, Numeral.IsMark c := fun c mem =>
    ((Sql.digits_of_isUnsigned unsigned).2 c mem).imp_right (by rintro rfl; decide)
  obtain rfl | rfl := sign
  · exact marks
  · exact List.forall_mem_cons.2 ⟨.inr (by decide), marks⟩

/-! ## The grammar -/

/-- The constants whose lists have elements that are allowed: numbers, texts between single quotes,
and lists of constants, with blanks around them. -/
inductive Derives (allowed : Text → Prop) : Text → Prop where
  | number {t : Text} (numeral : IsNumeral t) : Derives allowed t
  | quoted {content : Text} (noQuote : '\'' ∉ content) :
    Derives allowed ('\'' :: content ++ ['\''])
  | list {parts : List Text} (written : parts ≠ [])
    (each : ∀ part ∈ parts, allowed part) (derive : ∀ part ∈ parts, Derives allowed part) :
    Derives allowed ('(' :: Text.joined [','] parts ++ [')'])
  | blanks {before t after : Text} (blank : ∀ c ∈ before ++ after, isBlank c)
    (derives : Derives allowed t) : Derives allowed (before ++ t ++ after)

theorem Derives.mono {allowed' : Text → Prop} (h : ∀ t, allowed t → allowed' t)
    (derives : Derives allowed t) : Derives allowed' t := by
  induction derives with
  | number numeral => exact .number numeral
  | quoted noQuote => exact .quoted noQuote
  | list written each _ ih => exact .list written (fun part mem => h part (each part mem)) ih
  | blanks blank _ ih => exact .blanks blank ih

/-! ## Reading -/

theorem isQuoted_iff : isQuoted t ↔ ∃ content, t = '\'' :: content ++ ['\''] ∧ '\'' ∉ content := by
  simp [isQuoted, Option.any_eq_true, between?_eq_some]

theorem isConstant_iff : isConstant t ↔ isNumber t.trim ∨ isQuoted t.trim ∨
    ∃ inner : Text, t.trim = '(' :: inner ++ [')'] ∧ inner.trim ≠ [] ∧
      ∀ piece ∈ inner.split ',', isConstant piece := by
  rw [isConstant, Bool.or_eq_true, Bool.or_eq_true, or_assoc]
  simp only [← between?_eq_some]
  refine or_congr_right (or_congr_right ?_)
  split
  next none => simp [none]
  next inner list => simp [list]

/-- Blanks around a text do not matter. -/
theorem isConstant_congr {t' : Text} (h : t.trim = t'.trim) : isConstant t ↔ isConstant t' := by
  rw [isConstant_iff, isConstant_iff, h]

theorem trim_ne_nil (h : isConstant t) : t.trim ≠ [] := by
  obtain number | quoted | ⟨inner, whole, -⟩ := isConstant_iff.1 h
  · exact fun empty => absurd (empty ▸ number) (by decide)
  · exact fun empty => absurd (empty ▸ quoted) (by decide)
  · rw [whole]
    exact List.cons_ne_nil _ _

theorem not_isNumber_list (rest : Text) : ¬isNumber ('(' :: rest) := by
  intro h
  obtain ⟨u, unsigned, start⟩ := Sql.unsigned_of_isNumber h
  obtain ⟨⟨d, _, rfl, digit⟩, -⟩ := Sql.digits_of_isUnsigned unsigned
  obtain start | start := start
  · obtain ⟨rfl, -⟩ := List.cons_eq_cons.1 start
    cases digit
  · cases start

/-- What stands between parentheses is read in pieces between all its commas. -/
theorem isConstant_list : isConstant ('(' :: inner ++ [')']) ↔
    ∀ piece ∈ inner.split ',', isConstant piece := by
  rw [isConstant_iff, Text.trim_between rfl rfl]
  constructor
  · rintro (number | quoted | ⟨inner', whole, -, pieces⟩)
    · exact absurd number (not_isNumber_list _)
    · obtain ⟨_, whole, -⟩ := isQuoted_iff.1 quoted
      cases whole
    · obtain rfl : inner = inner' := by simpa using whole
      exact pieces
  · refine fun pieces => .inr (.inr ⟨inner, rfl, fun empty => ?_, pieces⟩)
    -- There is a piece, and it is not blank.
    obtain ⟨piece, _, first⟩ := List.exists_cons_of_ne_nil (Text.split_ne_nil ',' inner)
    have mem : piece ∈ inner.split ',' := first ▸ List.mem_cons_self
    refine trim_ne_nil (pieces piece mem) (Text.trim_eq_nil_iff.2 fun c hc => ?_)
    exact Text.trim_eq_nil_iff.1 empty c (Text.mem_of_mem_split mem hc).1

/-- What is taken for a constant is one, with no comma in the elements of its lists. The induction
is on its length, since the pieces of a list are no parts of it in the grammar's sense. -/
theorem derives_of_isConstant (h : isConstant t) : Derives (',' ∉ ·) t := by
  induction size : t.length using Nat.strongRecOn generalizing t with
  | _ n ih =>
    obtain ⟨before, after, whole, blank⟩ := t.exists_blanks
    have shorter := t.length_trim_le
    rw [whole]
    refine .blanks blank ?_
    obtain number | quoted | ⟨inner, list, -, pieces⟩ := isConstant_iff.1 h
    · exact .number (isNumber_iff.1 number)
    · obtain ⟨content, same, noQuote⟩ := isQuoted_iff.1 quoted
      rw [same]
      exact .quoted noQuote
    · rw [list, ← Text.joined_split ',' inner]
      refine .list (Text.split_ne_nil ',' inner) (fun piece mem comma => ?_) fun piece mem => ?_
      · exact (Text.mem_of_mem_split mem comma).2 rfl
      · have := Text.length_le_of_mem_split mem
        have := congrArg List.length list
        simp only [List.length_append, List.length_cons, List.length_nil] at this
        exact ih piece.length (by omega) (pieces piece mem) rfl

theorem isConstant_of_derives (h : Derives (',' ∉ ·) t) : isConstant t := by
  induction h with
  | number numeral =>
    have number := isNumber_iff.2 numeral
    have plain := fun c mem => Numeral.not_isBlank_of_isMark (isMark_of_isNumber number c mem)
    rw [isConstant_iff, Text.trim_eq_of_forall plain]
    exact .inl number
  | quoted noQuote =>
    rw [isConstant_iff, Text.trim_between rfl rfl]
    exact .inr (.inl (isQuoted_iff.2 ⟨_, rfl, noQuote⟩))
  | list written each _ ih =>
    rw [isConstant_list, Text.split_joined written each]
    exact ih
  | blanks blank _ ih => exact (isConstant_congr (Text.trim_append_append blank _)).2 ih

end Constant

/-! ## Commas and parentheses -/

namespace Sql

variable {t t' : Text} {xs ys : List Run} {depth : Nat}

/-- A reader who comes to the text outside of quotes leaves it outside of quotes, seeing `runs`. -/
def Sees (t : Text) (runs : List Run) : Prop :=
  ∀ rest, scanFrom .outside (t ++ rest) = (scanFrom .outside rest).map (runs ++ ·)

theorem Sees.append (ht : Sees t xs) (ht' : Sees t' ys) : Sees (t ++ t') (xs ++ ys) := by
  intro rest
  rw [List.append_assoc, ht, ht', Option.map_map]
  simp [Function.comp_def]

theorem sees_plain (h : ∀ c ∈ t, isQuote c = false) : Sees t (t.map .outside) := scanFrom_plain h

theorem sees_quoted {content : Text} (noQuote : '\'' ∉ content) :
    Sees ('\'' :: content ++ ['\'']) [.quoted '\'' content] := by
  intro rest
  rw [List.append_assoc, List.singleton_append, scanFrom_quoted rfl noQuote]
  rfl

/-- How many parentheses are open behind a run, where `depth` are in front of it. None can be closed
if none is open, and no comma may stand there. -/
def pass (depth : Nat) : Run → Option Nat
  | .outside '(' => some (depth + 1)
  | .outside ')' => if depth = 0 then none else some (depth - 1)
  | .outside ',' => if depth = 0 then none else some depth
  | _ => some depth

/-- Runs whose parentheses match, where every comma is within some of them or within one of `depth`
pairs around all of it. -/
def Closed (depth : Nat) (runs : List Run) : Prop := runs.foldlM pass depth = some depth

namespace Closed

theorem append (hx : Closed depth xs) (hy : Closed depth ys) : Closed depth (xs ++ ys) := by
  rw [Closed, List.foldlM_append, hx]
  exact hy

theorem comma : Closed (depth + 1) [.outside ','] := rfl

theorem enclosed (h : Closed (depth + 1) xs) :
    Closed depth ([.outside '('] ++ xs ++ [.outside ')']) := by
  rw [Closed, List.foldlM_append, List.foldlM_append]
  change (xs.foldlM pass (depth + 1)).bind _ = _
  rw [h]
  rfl

theorem of_forall (h : ∀ r ∈ xs, pass depth r = some depth) : Closed depth xs := by
  induction xs with
  | nil => rfl
  | cons r xs ih =>
    obtain ⟨first, later⟩ := List.forall_mem_cons.1 h
    rw [Closed, List.foldlM_cons, first]
    exact ih later

/-- Behind a closed text there is no comma where no parenthesis is open. -/
theorem not_append_comma (h : Closed 0 xs) : ¬Closed 0 (xs ++ .outside ',' :: ys) := by
  rw [Closed, List.foldlM_append, h]
  exact nofun

end Closed

theorem pass_succ {r : Run} {depth' : Nat} (h : pass depth r = some depth') :
    pass (depth + 1) r = some (depth' + 1) := by
  unfold pass at h ⊢
  split at h
  all_goals simp_all
  omega

theorem Closed.succ (h : Closed depth xs) : Closed (depth + 1) xs := by
  suffices shifted : ∀ {d d' : Nat}, xs.foldlM pass d = some d' →
      xs.foldlM pass (d + 1) = some (d' + 1) from shifted h
  clear h
  induction xs with
  | nil => rintro d d' ⟨⟩; rfl
  | cons r xs ih =>
    intro d d' h
    rw [List.foldlM_cons] at h ⊢
    obtain ⟨next, first, later⟩ := Option.bind_eq_some_iff.1 h
    rw [pass_succ first]
    exact ih later

/-- A reader sees a text as closed runs. -/
def IsClosed (depth : Nat) (t : Text) : Prop := ∃ runs, Sees t runs ∧ Closed depth runs

theorem isClosed_plain (h : ∀ c ∈ t, isQuote c = false ∧ c ∉ ['(', ')', ',']) :
    IsClosed depth t := by
  refine ⟨_, sees_plain fun c mem => (h c mem).1, .of_forall fun r seen => ?_⟩
  obtain ⟨c, mem, rfl⟩ := List.mem_map.1 seen
  have other := (h c mem).2
  unfold pass
  split
  all_goals simp_all

theorem IsClosed.append (ht : IsClosed depth t) (ht' : IsClosed depth t') :
    IsClosed depth (t ++ t') := by
  obtain ⟨xs, sees, closed⟩ := ht
  obtain ⟨ys, sees', closed'⟩ := ht'
  exact ⟨xs ++ ys, sees.append sees', closed.append closed'⟩

theorem isClosed_joined {parts : List Text} (h : ∀ part ∈ parts, IsClosed (depth + 1) part) :
    IsClosed (depth + 1) (Text.joined [','] parts) := by
  induction parts with
  | nil => exact ⟨[], fun rest => by simp [Text.joined], rfl⟩
  | cons part parts ih =>
    obtain ⟨first, later⟩ := List.forall_mem_cons.1 h
    cases parts with
    | nil => rwa [Text.joined, List.intercalate_singleton]
    | cons part' parts =>
      rw [Text.joined_cons_cons]
      exact (first.append ⟨_, sees_plain (List.forall_mem_singleton.2 rfl), .comma⟩).append (ih later)

/-- A closed text is not the part of another before one of its commas. -/
theorem IsClosed.not_append_comma (ht : IsClosed 0 t) : ¬IsClosed 0 (t ++ ',' :: t') := by
  rintro ⟨runs, sees, closed⟩
  obtain ⟨xs, sees', closed'⟩ := ht
  have whole := sees []
  have comma : scanFrom .outside (',' :: t') = (scanFrom .outside t').map (.outside ',' :: ·) := rfl
  rw [List.append_nil, sees', comma, Option.map_map] at whole
  obtain ⟨ys, -, same⟩ := Option.map_eq_some_iff.1 whole
  have same : xs ++ .outside ',' :: ys = runs := by simpa using same
  exact closed'.not_append_comma (same ▸ closed)

end Sql

namespace Constant

open Sql

variable {t a b : Text} {parts : List Text} {allowed : Text → Prop}

/-- A constant is closed. -/
theorem Derives.closed (h : Derives allowed t) : IsClosed 0 t := by
  induction h with
  | number numeral =>
    have number := isNumber_iff.2 numeral
    have others : ∀ c ∈ ['(', ')', ','], ¬Numeral.IsMark c := by simp [Numeral.IsMark]
    exact isClosed_plain fun c mem => ⟨Element.isQuote_eq_false_of_isNumber number c mem,
      fun other => others c other (isMark_of_isNumber number c mem)⟩
  | quoted noQuote => exact ⟨_, sees_quoted noQuote, rfl⟩
  | @list parts written _ _ ih =>
    have within : IsClosed 1 (Text.joined [','] parts) := isClosed_joined fun part mem => by
      obtain ⟨runs, sees, closed⟩ := ih part mem
      exact ⟨runs, sees, closed.succ⟩
    obtain ⟨runs, sees, closed⟩ := within
    have opening : Sees ['('] [.outside '('] := sees_plain (List.forall_mem_singleton.2 rfl)
    have closing : Sees [')'] [.outside ')'] := sees_plain (List.forall_mem_singleton.2 rfl)
    exact ⟨_, (opening.append sees).append closing, closed.enclosed⟩
  | blanks blank _ ih =>
    rw [List.forall_mem_append] at blank
    have plain {t : Text} (blank : ∀ c ∈ t, isBlank c) : IsClosed 0 t :=
      isClosed_plain fun c mem => by
        have notBlank : ∀ c ∈ ['(', ')', ','], ¬isBlank c := by simp [isBlank]
        exact ⟨isQuote_eq_false (Element.not_special_of_mark (.inr (blank c mem))),
          fun other => notBlank c other (blank c mem)⟩
    exact ((plain blank.1).append ih).append (plain blank.2)

/-- The text before the first comma of an element is a piece of a list. -/
theorem mem_split_joined (absent : ',' ∉ a) (mem : a ++ ',' :: b ∈ parts) :
    a ∈ (Text.joined [','] parts).split ',' := by
  have first (rest : Text) : a ∈ Text.split ',' (a ++ ',' :: rest) := by
    rw [Text.split_append, Text.split_of_not_mem absent]
    exact List.mem_cons_self
  induction parts with
  | nil => cases mem
  | cons part parts ih =>
    cases parts with
    | nil =>
      obtain rfl := List.mem_singleton.1 mem
      rw [Text.joined, List.intercalate_singleton]
      exact first b
    | cons part' parts =>
      rw [Text.joined_cons_cons, List.append_assoc, List.singleton_append]
      obtain rfl | mem := List.mem_cons.1 mem
      · rw [List.append_assoc, List.cons_append]
        exact first _
      · rw [Text.split_append]
        exact List.mem_append_right _ (ih mem)

/-- No constant before a comma of a constant. -/
theorem Derives.not_isConstant (h : Derives allowed (a ++ ',' :: b)) : ¬isConstant a :=
  fun before => (derives_of_isConstant before).closed.not_append_comma h.closed

theorem isConstant_list_iff (written : parts ≠ []) (derive : ∀ part ∈ parts, Derives allowed part) :
    isConstant ('(' :: Text.joined [','] parts ++ [')']) ↔
      ∀ part ∈ parts, ',' ∉ part ∧ isConstant part := by
  rw [isConstant_list]
  constructor
  · intro pieces
    have absent : ∀ part ∈ parts, ',' ∉ part := by
      intro part mem comma
      obtain ⟨a, b, rfl, first⟩ := List.eq_append_cons_of_mem comma
      exact (derive _ mem).not_isConstant (pieces a (mem_split_joined first mem))
    rw [Text.split_joined written absent] at pieces
    exact fun part mem => ⟨absent part mem, pieces part mem⟩
  · intro each
    rw [Text.split_joined written fun part mem => (each part mem).1]
    exact fun part mem => (each part mem).2

end Constant

open Constant

/-- The texts that are taken for constants are those of the grammar in which no element of a list
holds a comma. So each of them is a constant, and of the lists of constants those are missed that
have an element with a comma in it, or one that is missed itself. -/
theorem isConstant_grammar (t : Text) :
    (isConstant t ↔ Derives (',' ∉ ·) t) ∧
    (isConstant t → Derives (fun _ => True) t) ∧
    ∀ parts : List Text, parts ≠ [] → (∀ part ∈ parts, Derives (fun _ => True) part) →
      t.trim = '(' :: Text.joined [','] parts ++ [')'] →
      (isConstant t ↔ ∀ part ∈ parts, ',' ∉ part ∧ isConstant part) := by
  refine ⟨⟨derives_of_isConstant, isConstant_of_derives⟩,
    fun h => (derives_of_isConstant h).mono fun _ _ => trivial, fun parts written derive list => ?_⟩
  have same : t.trim = Text.trim ('(' :: Text.joined [','] parts ++ [')']) :=
    list.trans (Text.trim_between rfl rfl _).symm
  rw [isConstant_congr same]
  exact isConstant_list_iff written derive

theorem isConstant_grammar_pairs :
    (∀ part ∈ ["(1,2)".toList, "3".toList], Derives (fun _ => True) part) ∧
    isConstant "(1,2)".toList ∧ ¬isConstant " ((1,2),3)".toList := by
  have numeral {t : Text} (h : isNumber t) {allowed : Text → Prop} : Derives allowed t :=
    .number (isNumber_iff.1 h)
  have digits {allowed : Text → Prop} : ∀ part ∈ ["1".toList, "2".toList], Derives allowed part :=
    List.forall_mem_cons.2 ⟨numeral rfl, List.forall_mem_singleton.2 (numeral rfl)⟩
  have pair : ∀ part ∈ ["(1,2)".toList, "3".toList], Derives (fun _ => True) part :=
    List.forall_mem_cons.2 ⟨.list (List.cons_ne_nil _ _) (fun _ _ => trivial) digits,
      List.forall_mem_singleton.2 (numeral rfl)⟩
  refine ⟨pair, ?_, fun all => ?_⟩
  · exact (isConstant_grammar _).1.2 (.list (List.cons_ne_nil _ _) (by decide) digits)
  · have each := ((isConstant_grammar " ((1,2),3)".toList).2.2 _ (List.cons_ne_nil _ _) pair
      (by decide)).1 all
    exact (each _ List.mem_cons_self).1 (by decide)

/-- The list of one text with a comma in it is a constant, and is not taken for one. -/
theorem not_isConstant_quoted_comma :
    Derives (fun _ => True) "('a,b')".toList ∧ ¬isConstant "('a,b')".toList := by
  have text : ∀ part ∈ ["'a,b'".toList], Derives (fun _ => True) part :=
    List.forall_mem_singleton.2 (.quoted (by decide : '\'' ∉ "a,b".toList))
  refine ⟨.list (List.cons_ne_nil _ _) (fun _ _ => trivial) text, fun all => ?_⟩
  exact ((isConstant_list_iff (List.cons_ne_nil _ _) text).1 all _ List.mem_cons_self).1 (by decide)

end JoinSheet
