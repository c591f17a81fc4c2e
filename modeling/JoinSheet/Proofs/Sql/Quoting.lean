import JoinSheet.Sql.Aggregate
import JoinSheet.Sql.Draft
import JoinSheet.Sql.Write

/-!
# Quotes in statements

A reader of a statement who knows only about quotes sees quoted runs and, outside of them,
characters. A statement that is spelled by elements of known kinds is seen as these elements mean
it: what is between quotes stays there.

## Main definitions

* `Sql.Run`, `Sql.scan` — what a reader sees, and how a statement is read.
* `Sql.Element` — the kinds of pieces that statements are spelled by.
* `Sql.Supplied`, `Sql.Element.Allowed` — what users supply, and the elements that may come from it.
* `Sql.Confined` — texts that are spelled by allowed elements.
-/

namespace JoinSheet

/-! ## Reading -/

namespace Sql

/-- What a reader sees of a statement: a character outside of quotes, or a quoted run. -/
inductive Run where
  | outside (c : Char)
  | quoted (quote : Char) (content : Text)
  deriving DecidableEq, Repr

/-- Where a reader stands: outside of quotes, or in a quoted run after some of its content. -/
inductive Reading where
  | outside
  | inside (quote : Char) (content : Text)

/-- The characters that open a quoted run. The same character closes it. -/
def isQuote (c : Char) : Bool := c = '"' || c = '\''

/-- What a reader sees from a place on, unless the text ends within quotes. -/
def scanFrom : Reading → Text → Option (List Run)
  | .outside, [] => some []
  | .inside _ _, [] => none
  | .outside, c :: rest =>
    if isQuote c then scanFrom (.inside c []) rest
    else (scanFrom .outside rest).map (.outside c :: ·)
  | .inside quote content, c :: rest =>
    if c = quote then (scanFrom .outside rest).map (.quoted quote content :: ·)
    else scanFrom (.inside quote (content ++ [c])) rest

/-- What a reader sees of a statement, unless it ends within quotes. -/
def scan (text : Text) : Option (List Run) := scanFrom .outside text

/-- What is read outside of quotes is seen as it is. -/
theorem scanFrom_plain {t : Text} (h : ∀ c ∈ t, isQuote c = false) (rest : Text) :
    scanFrom .outside (t ++ rest) = (scanFrom .outside rest).map (t.map Run.outside ++ ·) := by
  induction t with
  | nil => simp
  | cons c t ih =>
    obtain ⟨notQuote, h⟩ := List.forall_mem_cons.1 h
    rw [List.cons_append, scanFrom, notQuote, ih h]
    simp [Option.map_map, Function.comp_def]

theorem scanFrom_inside {quote : Char} {t : Text} (h : quote ∉ t) (content rest : Text) :
    scanFrom (.inside quote content) (t ++ quote :: rest) =
      (scanFrom .outside rest).map (.quoted quote (content ++ t) :: ·) := by
  induction t generalizing content with
  | nil => simp [scanFrom]
  | cons c t ih =>
    rw [List.mem_cons, not_or] at h
    obtain ⟨differs, h⟩ := h
    rw [List.cons_append, scanFrom, if_neg (Ne.symm differs), ih h, List.append_assoc,
      List.singleton_append]

/-- A quoted text without its quote is seen as one run. -/
theorem scanFrom_quoted {quote : Char} (isQuote : isQuote quote) {t : Text} (h : quote ∉ t)
    (rest : Text) :
    scanFrom .outside (quote :: t ++ quote :: rest) =
      (scanFrom .outside rest).map (.quoted quote t :: ·) := by
  rw [List.cons_append, scanFrom, if_pos isQuote, scanFrom_inside h, List.nil_append]

/-! ## Elements -/

/-- The pieces that statements are spelled by. -/
inductive Element where
  /-- Keywords and operators. -/
  | fixed (t : Text)
  /-- A placeholder by its name. -/
  | placeholder (column : Text)
  /-- A segment of an identifier between double quotes. -/
  | segment (name : Text)
  /-- A text between single quotes. -/
  | literal (content : Text)
  | number (t : Text)
  /-- A parenthesis, a comma or a blank of a constant. -/
  | mark (c : Char)
  deriving DecidableEq, Repr

namespace Element

/-- How an element is written. -/
def text : Element → Text
  | fixed t => t
  | placeholder column => ':' :: column
  | segment name => '"' :: name ++ ['"']
  | literal content => '\'' :: content ++ ['\'']
  | number t => t
  | mark c => [c]

/-- What a reader should see of an element. -/
def runs : Element → List Run
  | segment name => [.quoted '"' name]
  | literal content => [.quoted '\'' content]
  | e => e.text.map .outside

end Element

/-- The keywords and operators of statements, with the blanks around them. -/
def words : List String :=
  ["SELECT ", " FROM ", " FROM (", ") AS ", " LEFT JOIN ", " ON ", " AND ", " WHERE ",
    " ORDER BY ", " LIMIT $1 OFFSET $2", "INSERT INTO ", " (", ") VALUES (", " RETURNING ",
    "UPDATE ", " SET ", "CAST(", " CAST($3 AS ", " AS ", "text", "numeric", "SUM(", "MAX(",
    "MIN(", "COUNT(", "COUNT(*)", "mul", "(", ")", ") ", ".", ", ", " ", " = ", "=", "<", "<=",
    ">", ">=", "LIKE", " ASC", " DESC", " AS text)"]

/-- Names that statements use of their own. -/
def ownNames : List Text :=
  ["sq".toList, Aggregate.valueName, Aggregate.conditionName, "db_interface".toList, "mul".toList]

/-- The texts that users supply for a statement: identifiers, and operands that may be constants. -/
structure Supplied where
  identifiers : List Text
  operands : List Text

/-- A number or a quoted text within a constant, with the blanks around it left out. -/
inductive HasLeaf : (constant leaf : Text) → Prop where
  | leaf {raw : Text} (simple : Constant.isNumber raw.trim ∨ Constant.isQuoted raw.trim) :
    HasLeaf raw raw.trim
  | part {raw inner part leaf : Text} (list : Constant.between? '(' ')' raw.trim = some inner)
    (isPart : part ∈ inner.split ',') (has : HasLeaf part leaf) : HasLeaf raw leaf

/-- The elements that a statement may be spelled by. -/
def Element.Allowed (supplied : Supplied) : Element → Prop
  | fixed t => ∃ word ∈ words, t = word.toList
  | placeholder column => column ≠ [] ∧ ∀ c ∈ column, isNameChar c
  | segment name => IsSegment name ∧
    (name ∈ ownNames ∨ ∃ identifier ∈ supplied.identifiers, name ∈ identifier.split '.')
  | literal content => '\'' ∉ content ∧
    ∃ operand ∈ supplied.operands, HasLeaf operand ('\'' :: content ++ ['\''])
  | number t => Constant.isNumber t ∧ ∃ operand ∈ supplied.operands, HasLeaf operand t
  | mark c => (c ∈ ['(', ')', ','] ∨ isBlank c) ∧ ∃ operand ∈ supplied.operands, c ∈ operand

/-- What a reader should see of a text. -/
def runsOf (elements : List Element) : List Run := elements.flatMap Element.runs

/-- Texts that are spelled by allowed elements. -/
def Confined (supplied : Supplied) (text : Text) : Prop :=
  ∃ elements : List Element, (∀ e ∈ elements, e.Allowed supplied) ∧
    elements.flatMap Element.text = text

/-! ## What a reader sees of elements -/

/-- Characters that mean something to a reader outside of quotes. -/
def special : List Char := ['"', '\'', ';', '-', '/']

theorem not_special_of_word {t : Text} (h : ∃ word ∈ words, t = word.toList) :
    ∀ c ∈ t, c ∉ special := by
  obtain ⟨word, mem, rfl⟩ := h
  have plain : (words.all fun word => word.toList.all fun c => c ∉ special) = true := by decide
  intro c hc
  exact of_decide_eq_true (List.all_eq_true.1 (List.all_eq_true.1 plain word mem) c hc)

theorem digits_of_isDigits {t : Text} (h : Constant.isDigits t) :
    (∃ d rest, t = d :: rest ∧ d.isDigit) ∧ ∀ c ∈ t, c.isDigit := by
  simp only [Constant.isDigits, Bool.and_eq_true, decide_eq_true_eq, List.all_eq_true] at h
  obtain ⟨nonempty, digits⟩ := h
  obtain ⟨d, rest, rfl⟩ := List.exists_cons_of_ne_nil nonempty
  exact ⟨⟨d, rest, rfl, digits d List.mem_cons_self⟩, digits⟩

/-- A number without a sign starts with a digit and holds no sign. -/
theorem digits_of_isUnsigned {t : Text} (h : Constant.isUnsigned t) :
    (∃ d rest, t = d :: rest ∧ d.isDigit) ∧ ∀ c ∈ t, c.isDigit ∨ c = '.' := by
  unfold Constant.isUnsigned at h
  split at h
  · obtain ⟨first, digits⟩ := digits_of_isDigits h
    exact ⟨first, fun c hc => .inl (digits c hc)⟩
  next whole fraction cut =>
    obtain ⟨hw, hf⟩ := Bool.and_eq_true_iff.1 h
    obtain ⟨⟨d, rest, rfl, digit⟩, wholeDigits⟩ := digits_of_isDigits hw
    obtain ⟨-, fractionDigits⟩ := digits_of_isDigits hf
    rw [Text.append_of_cut? cut]
    refine ⟨⟨d, rest ++ '.' :: fraction, rfl, digit⟩, fun c hc => ?_⟩
    obtain hc | hc := List.mem_append.1 hc
    · exact .inl (wholeDigits c hc)
    · obtain rfl | hc := List.mem_cons.1 hc
      · exact .inr rfl
      · exact .inl (fractionDigits c hc)

/-- A number is one without a sign, or a minus sign and such a number. -/
theorem unsigned_of_isNumber {t : Text} (h : Constant.isNumber t) :
    ∃ u, Constant.isUnsigned u ∧ (t = u ∨ t = '-' :: u) := by
  unfold Constant.isNumber at h
  split at h
  next u => exact ⟨u, h, .inr rfl⟩
  next => exact ⟨t, h, .inl rfl⟩

theorem not_mem_special {p : Char → Bool} (h : special.all fun c => !p c) {c : Char}
    (hc : p c) : c ∉ special := by
  intro isSpecial
  have := List.all_eq_true.1 h c isSpecial
  rw [hc] at this
  cases this

theorem isQuote_eq_false {c : Char} (h : c ∉ special) : isQuote c = false := by
  simp_all [special, isQuote]

/-- What a reader sees of a text without special characters. -/
theorem scanFrom_of_not_special {t : Text} (h : ∀ c ∈ t, c ∉ special) (rest : Text) :
    scanFrom .outside (t ++ rest) = (scanFrom .outside rest).map (t.map Run.outside ++ ·) :=
  scanFrom_plain (fun c hc => isQuote_eq_false (h c hc)) rest

namespace Element

variable {supplied : Supplied}

/-- All characters of a number are plain, except for the sign in front. -/
theorem not_special_of_isUnsigned {t : Text} (h : Constant.isUnsigned t) :
    ∀ c ∈ t, c ∉ special := by
  intro c hc
  obtain digit | rfl := (digits_of_isUnsigned h).2 c hc
  · exact not_mem_special (by decide) digit
  · decide

theorem isQuote_eq_false_of_isNumber {t : Text} (h : Constant.isNumber t) :
    ∀ c ∈ t, isQuote c = false := by
  obtain ⟨u, unsigned, rfl | rfl⟩ := unsigned_of_isNumber h
  · exact fun c hc => isQuote_eq_false (not_special_of_isUnsigned unsigned c hc)
  · exact List.forall_mem_cons.2
      ⟨rfl, fun c hc => isQuote_eq_false (not_special_of_isUnsigned unsigned c hc)⟩

theorem not_special_of_mark {c : Char} (h : c ∈ ['(', ')', ','] ∨ isBlank c) : c ∉ special := by
  obtain h | h := h
  · simp only [List.mem_cons, List.not_mem_nil, or_false] at h
    obtain rfl | rfl | rfl := h <;> decide
  · exact not_mem_special (by decide) h

theorem not_special_of_placeholder {column : Text} (h : ∀ c ∈ column, isNameChar c) :
    ∀ c ∈ ':' :: column, c ∉ special :=
  List.forall_mem_cons.2 ⟨by decide, fun c hc => not_mem_special (by decide) (h c hc)⟩

/-- A reader sees of an allowed element what it means. -/
theorem scanFrom_text {e : Element} (h : e.Allowed supplied) (rest : Text) :
    scanFrom .outside (e.text ++ rest) = (scanFrom .outside rest).map (e.runs ++ ·) := by
  cases e with
  | fixed t => exact scanFrom_of_not_special (not_special_of_word h) rest
  | placeholder column => exact scanFrom_of_not_special (not_special_of_placeholder h.2) rest
  | segment name =>
    rw [text, List.append_assoc, List.singleton_append, scanFrom_quoted rfl h.1.2.1]
    rfl
  | literal content =>
    rw [text, List.append_assoc, List.singleton_append, scanFrom_quoted rfl h.1]
    rfl
  | number t => exact scanFrom_plain (isQuote_eq_false_of_isNumber h.1) rest
  | mark c =>
    refine scanFrom_of_not_special (fun c' hc => ?_) rest
    rw [List.mem_singleton.1 hc]
    exact not_special_of_mark h.1

end Element

/-- A reader sees of a text that is spelled by allowed elements what these mean. -/
theorem scan_flatMap_text {supplied : Supplied} {elements : List Element}
    (h : ∀ e ∈ elements, e.Allowed supplied) :
    scan (elements.flatMap Element.text) = some (runsOf elements) := by
  induction elements with
  | nil => rfl
  | cons e elements ih =>
    obtain ⟨first, later⟩ := List.forall_mem_cons.1 h
    rw [List.flatMap_cons, scan, Element.scanFrom_text first, ← scan, ih later]
    rfl

/-! ## What never stands outside of quotes -/

/-- Nothing outside of quotes ends a statement or starts a comment. -/
structure Harmless (runs : List Run) : Prop where
  noSemicolon : .outside ';' ∉ runs
  noLineComment : ¬ [.outside '-', .outside '-'] <:+: runs
  noBlockComment : ¬ [.outside '/', .outside '*'] <:+: runs

/-- Every minus sign outside of quotes stands before a digit. -/
def SignsDigits (runs : List Run) : Prop :=
  ∀ before after, runs = before ++ .outside '-' :: after →
    ∃ d rest, after = .outside d :: rest ∧ d.isDigit

theorem SignsDigits.of_not_mem {runs : List Run} (h : .outside '-' ∉ runs) : SignsDigits runs := by
  rintro before after rfl
  exact absurd (by simp) h

theorem SignsDigits.append {xs ys : List Run} (hx : SignsDigits xs) (hy : SignsDigits ys) :
    SignsDigits (xs ++ ys) := by
  intro before after whole
  obtain ⟨more, rfl, behind⟩ | ⟨more, front, whole⟩ := List.append_eq_append_iff.1 whole
  · exact hy more after behind
  · cases more with
    | nil => exact hy [] after (by simpa using whole.symm)
    | cons r more =>
      obtain ⟨rfl, rfl⟩ := List.cons_eq_cons.1 whole
      obtain ⟨d, rest, rfl, digit⟩ := hx before more front
      exact ⟨d, rest ++ ys, rfl, digit⟩

theorem Element.signsDigits_runs {supplied : Supplied} {e : Element} (h : e.Allowed supplied) :
    SignsDigits e.runs ∧ .outside ';' ∉ e.runs ∧ .outside '/' ∉ e.runs := by
  have plain {t : Text} (ht : ∀ c ∈ t, c ∉ special) :
      SignsDigits (t.map Run.outside) ∧ .outside ';' ∉ t.map Run.outside ∧
        .outside '/' ∉ t.map Run.outside := by
    have absent (c : Char) (hc : c ∈ special) : Run.outside c ∉ t.map Run.outside := by
      intro mem
      obtain ⟨c', hc', same⟩ := List.mem_map.1 mem
      cases same
      exact ht c hc' hc
    exact ⟨.of_not_mem (absent _ (by decide)), absent _ (by decide), absent _ (by decide)⟩
  cases e with
  | fixed t => exact plain (not_special_of_word h)
  | placeholder column => exact plain (not_special_of_placeholder h.2)
  | segment name => exact ⟨.of_not_mem (by simp [runs]), by simp [runs], by simp [runs]⟩
  | literal content => exact ⟨.of_not_mem (by simp [runs]), by simp [runs], by simp [runs]⟩
  | number t =>
    obtain ⟨u, unsigned, rfl | rfl⟩ := unsigned_of_isNumber h.1
    · exact plain (not_special_of_isUnsigned unsigned)
    · obtain ⟨noDash, noSemicolon, noSlash⟩ := plain (not_special_of_isUnsigned unsigned)
      obtain ⟨⟨d, rest, rfl, digit⟩, -⟩ := digits_of_isUnsigned unsigned
      refine ⟨?_, by simpa [runs, text] using noSemicolon, by simpa [runs, text] using noSlash⟩
      intro before after whole
      cases before with
      | nil =>
        cases whole
        exact ⟨d, rest.map .outside, rfl, digit⟩
      | cons r before =>
        obtain ⟨-, whole⟩ := List.cons_eq_cons.1 whole
        exact noDash before after whole
  | mark c =>
    refine plain fun c' hc => ?_
    rw [List.mem_singleton.1 hc]
    exact not_special_of_mark h.1

theorem harmless_runsOf {supplied : Supplied} {elements : List Element}
    (h : ∀ e ∈ elements, e.Allowed supplied) : Harmless (runsOf elements) := by
  have signs : SignsDigits (runsOf elements) := by
    induction elements with
    | nil => exact .of_not_mem (by simp [runsOf])
    | cons e elements ih =>
      obtain ⟨first, later⟩ := List.forall_mem_cons.1 h
      exact (Element.signsDigits_runs first).1.append (ih later)
  refine ⟨?_, ?_, ?_⟩
  · intro mem
    obtain ⟨e, he, mem⟩ := List.mem_flatMap.1 mem
    exact (Element.signsDigits_runs (h e he)).2.1 mem
  · rintro ⟨before, after, whole⟩
    obtain ⟨d, rest, next, digit⟩ :=
      signs before (.outside '-' :: after) (by simpa using whole.symm)
    cases next
    revert digit
    decide
  · rintro ⟨before, after, whole⟩
    have mem : Run.outside '/' ∈ runsOf elements := by
      rw [← whole]
      simp
    obtain ⟨e, he, mem⟩ := List.mem_flatMap.1 mem
    exact (Element.signsDigits_runs (h e he)).2.2 mem

end Sql

end JoinSheet
