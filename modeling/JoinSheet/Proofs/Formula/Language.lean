import JoinSheet.Proofs.Formula.Nesting
import JoinSheet.Proofs.Formula.Reading

/-!
# Which texts are formulas

A text can be read as a formula exactly if every quote is closed, no array notation stands outside
of quoted runs, and the parentheses outside of them match. The tokens are nested then: a closing
parenthesis is of the kind of the one it closes, and a comma separates exactly if the innermost
group around it is a call.

## Main definitions

* `Formula.IsBody` — the texts that can follow the marker of a formula.
* `Formula.Nested` — tokens whose parentheses match and agree in kind.
* `Formula.Encloses` — the innermost group that is open after some tokens.

## Main statements

* `Formula.closes_iff` — counting parentheses and walking over them come to the same.
* `Formula.exists_reads_iff` — lexemes can be read if their marks match.
* `Formula.Reads.opens` — the groups that are open while lexemes are read.
* `Formula.scan_nested` — the texts that can be read, and how their tokens are nested.
-/

namespace JoinSheet.Formula

open Lexeme

variable {s s' : Surroundings} {ls : List Lexeme} {ts xs ys : List Token} {t : Token} {depth : Nat}
  {opened : List Bool}

/-! ## Counting parentheses -/

/-- A text that can follow the marker of a formula. -/
structure IsBody (t : Text) : Prop where
  quotes_even : Even (t.count '"')
  no_array : ∀ c ∈ outside t, c ≠ '{' ∧ c ≠ '}' ∧ c ≠ ';'
  closers_le : ∀ start, start <+: outside t → start.count ')' ≤ start.count '('
  closers_eq : (outside t).count ')' = (outside t).count '('

/-- The parentheses of a text close `depth` groups and all those that they open. -/
def Closes : Nat → Text → Prop
  | depth, [] => depth = 0
  | depth, c :: rest =>
    if c = '(' then Closes (depth + 1) rest
    else if c = ')' then 0 < depth ∧ Closes (depth - 1) rest
    else Closes depth rest

theorem closes_iff {t : Text} : Closes depth t ↔
    (∀ start, start <+: t → start.count ')' ≤ depth + start.count '(') ∧
      t.count ')' = depth + t.count '(' := by
  induction t generalizing depth with
  | nil => simp [Closes, eq_comm]
  | cons c rest ih =>
    have prefixes (p : Text → Prop) (h : p []) :
        (∀ start, start <+: c :: rest → p start) ↔ ∀ start, start <+: rest → p (c :: start) := by
      simp only [List.prefix_cons_iff]
      constructor
      · intro all start first
        exact all _ (.inr ⟨start, rfl, first⟩)
      · rintro all _ (rfl | ⟨start, rfl, first⟩)
        · exact h
        · exact all start first
    rw [prefixes _ (by simp), Closes]
    split
    next opening =>
      subst opening
      simp [ih, Nat.add_right_comm, Nat.add_assoc]
    next =>
      split
      next closing =>
        subst closing
        simp only [ih, List.count_cons_self, List.count_cons_of_ne (show ')' ≠ '(' by decide)]
        constructor
        · rintro ⟨positive, all, total⟩
          refine ⟨fun start first => ?_, by omega⟩
          have := all start first
          omega
        · rintro ⟨all, total⟩
          -- The closing parenthesis alone is a start of the text.
          have positive : 0 < depth := by
            simpa [Nat.one_le_iff_ne_zero, Nat.pos_iff_ne_zero] using all [] List.nil_prefix
          refine ⟨positive, fun start first => ?_, by omega⟩
          have := all start first
          omega
      next => simp [*]

theorem closes_filter {t : Text} : Closes depth (t.filter isMark) ↔ Closes depth t := by
  induction t generalizing depth with
  | nil => rfl
  | cons c rest ih =>
    by_cases marked : isMark c
    · simp only [List.filter_cons, marked, if_true, Closes, ih]
    · have opening : c ≠ '(' := by rintro rfl; exact marked rfl
      have closing : c ≠ ')' := by rintro rfl; exact marked rfl
      simp [marked, Closes, ih, opening, closing]

/-! ## Acceptance -/

/-- Whether no token is read from a lexeme. -/
def isRefused (l : Lexeme) : Prop := l.isUnclosed ∨ ∃ c, l = .unsupported c

/-- Lexemes can be read if none of them is refused and their parentheses match. -/
theorem exists_reads_iff : (∃ ts s', Reads s ls ts s' ∧ s'.opened = []) ↔
    (∀ l ∈ ls, ¬isRefused l) ∧ Closes s.opened.length (ls.flatMap mark) := by
  induction ls generalizing s with
  | nil => simp [reads_nil, Closes]
  | cons l ls ih =>
    -- The surroundings after the first lexeme do not depend on the others.
    have first : (∃ ts s', Reads s (l :: ls) ts s' ∧ s'.opened = []) ↔
        ∃ t next, tokenOf s l = .ok (t, next) ∧ ∃ ts s', Reads next ls ts s' ∧ s'.opened = [] := by
      simp only [reads_cons]
      constructor
      · rintro ⟨_, s', ⟨t, next, rest, one, later, rfl⟩, closed⟩
        exact ⟨t, next, one, rest, s', later, closed⟩
      · rintro ⟨t, next, one, rest, s', later, closed⟩
        exact ⟨_, s', ⟨t, next, rest, one, later, rfl⟩, closed⟩
    rw [first, List.forall_mem_cons, List.flatMap_cons]
    simp only [ih]
    cases l with
    | closer =>
      cases opened : s.opened <;> simp [tokenOf, opened, isRefused, isUnclosed, mark, Closes]
    | opener name => simp [tokenOf, isRefused, isUnclosed, mark, Closes]
    | _ => simp [tokenOf, isRefused, isUnclosed, mark]

theorem eq_unsupported_of_mem_mark {c : Char} {l : Lexeme} (array : isArrayChar c)
    (h : c ∈ l.mark) : l = .unsupported c := by
  cases l <;> simp only [mark, List.not_mem_nil, List.mem_singleton] at h <;> subst h
  case unsupported => rfl
  all_goals cases array

/-- A text's lexemes are refused for a missing quote or for array notation outside of quoted
runs. -/
theorem forall_not_isRefused_ofText {t : Text} : (∀ l ∈ ofText t, ¬isRefused l) ↔
    Even (t.count '"') ∧ ∀ c ∈ outside t, isArrayChar c = false := by
  have marked (c : Char) : c ∈ outside t ∧ isMark c ↔ ∃ l ∈ ofText t, c ∈ l.mark := by
    rw [← List.mem_filter, ← flatMap_mark_ofText, List.mem_flatMap]
  have quotes : (∀ l ∈ ofText t, ¬l.isUnclosed) ↔ Even (t.count '"') := by
    simpa using congrArg (· = false) (any_isUnclosed_ofText t)
  rw [← quotes]
  constructor
  · intro readable
    refine ⟨fun l mem unclosed => readable l mem (.inl unclosed), fun c mem => ?_⟩
    by_contra array
    rw [Bool.not_eq_false] at array
    obtain ⟨l, found, written⟩ := (marked c).1 ⟨mem, by simp [isMark, array]⟩
    exact readable l found (.inr ⟨c, eq_unsupported_of_mem_mark array written⟩)
  · rintro ⟨closed, plain⟩ l mem (unclosed | ⟨c, rfl⟩)
    · exact closed l mem unclosed
    · obtain ⟨visible, -⟩ := (marked c).2 ⟨_, mem, List.mem_singleton_self c⟩
      exact Bool.false_ne_true ((plain c visible).symm.trans (isArrayChar_of_mem_ofText mem))

theorem isBody_iff {t : Text} : IsBody t ↔
    (∀ l ∈ ofText t, ¬isRefused l) ∧ Closes 0 ((ofText t).flatMap mark) := by
  rw [forall_not_isRefused_ofText, flatMap_mark_ofText, closes_filter, closes_iff]
  constructor
  · intro body
    refine ⟨⟨body.quotes_even, fun c mem => ?_⟩, ?_, ?_⟩
    · simpa [isArrayChar, and_assoc] using body.no_array c mem
    · simpa using body.closers_le
    · simpa using body.closers_eq
  · rintro ⟨⟨quotes, array⟩, le, eq⟩
    refine ⟨quotes, fun c mem => ?_, by simpa using le, by simpa using eq⟩
    simpa [isArrayChar, and_assoc] using array c mem

/-! ## Nesting -/

/-- Tokens whose parentheses match. A group is closed by a parenthesis of its own kind. -/
inductive Nested : List Token → Prop where
  | nil : Nested []
  | token {t : Token} {ts : List Token} (notOpening : ¬t.isOpening) (notClosing : ¬t.isClosing)
      (rest : Nested ts) : Nested (t :: ts)
  | group {opener closer : Token} {inside ts : List Token} (opens : opener.isOpening)
      (closes : closer.isClosing) (group : opener.kind = .call ∨ opener.kind = .paren)
      (same : closer.kind = opener.kind) (nested : Nested inside) (rest : Nested ts) :
      Nested (opener :: (inside ++ closer :: ts))

/-- After the tokens `before`, the innermost group that is open was opened by `opener`. -/
def Encloses (opener : Token) (before : List Token) : Prop :=
  ∃ outer inside, before = outer ++ opener :: inside ∧ opener.isOpening ∧ Nested inside

theorem Nested.append (hx : Nested xs) (hy : Nested ys) : Nested (xs ++ ys) := by
  induction hx with
  | nil => exact hy
  | token notOpening notClosing _ ih => exact .token notOpening notClosing ih
  | group opens closes group same nested _ _ ih =>
    rw [List.cons_append, List.append_assoc, List.cons_append]
    exact .group opens closes group same nested ih

/-- The kind of the parentheses of a group. -/
def groupKind (isCall : Bool) : TokenKind := if isCall then .call else .paren

/-- Tokens after which groups of these kinds are open, the innermost first. -/
inductive Opens : List Bool → List Token → Prop where
  | nested {ts : List Token} (nested : Nested ts) : Opens [] ts
  | group {opened : List Bool} {outer inside : List Token} {opener : Token} (isCall : Bool)
      (around : Opens opened outer) (opens : opener.isOpening)
      (kind : opener.kind = groupKind isCall) (nested : Nested inside) :
      Opens (isCall :: opened) (outer ++ opener :: inside)

theorem Opens.append (h : Opens opened xs) (hy : Nested ys) : Opens opened (xs ++ ys) := by
  cases h with
  | nested nested => exact .nested (nested.append hy)
  | group isCall around opens kind nested =>
    rw [List.append_assoc, List.cons_append]
    exact .group isCall around opens kind (nested.append hy)

theorem isOpening_operand (t : Text) : ¬(Token.operand t).isOpening := by
  unfold Token.operand
  repeat' split
  all_goals simp [Token.isOpening]

theorem isClosing_operand (t : Text) : ¬(Token.operand t).isClosing := by
  unfold Token.operand
  repeat' split
  all_goals simp [Token.isClosing]

theorem role_operatorToken (previous : Option Token) (t : Text) :
    (operatorToken previous t).role = .plain ∨ (operatorToken previous t).role = .logical := by
  unfold operatorToken
  repeat' split
  all_goals simp

/-- What a token does to the groups that are open. -/
theorem opened_tokenOf {l : Lexeme} (h : tokenOf s l = .ok (t, s')) :
    (¬t.isOpening ∧ ¬t.isClosing ∧ s'.opened = s.opened) ∨
    (t.isOpening ∧ ∃ isCall, t.kind = groupKind isCall ∧ s'.opened = isCall :: s.opened) ∨
    (t.isClosing ∧ ∃ isCall, t.kind = groupKind isCall ∧ s.opened = isCall :: s'.opened) := by
  cases l <;> simp only [tokenOf] at h
  case word text =>
    cases h
    exact .inl ⟨isOpening_operand text, isClosing_operand text, rfl⟩
  case quoted text =>
    cases h
    exact .inl ⟨isOpening_operand text, isClosing_operand text, rfl⟩
  case blanks =>
    cases h
    exact .inl ⟨by simp [Token.isOpening], by simp [Token.isClosing], rfl⟩
  case operator text =>
    cases h
    have role := role_operatorToken s.previous text
    refine .inl ⟨?_, ?_, rfl⟩ <;> rcases role with h | h <;>
      simp [Token.isOpening, Token.isClosing, h]
  case opener name =>
    cases h
    exact .inr (.inl ⟨rfl, !name.isEmpty, by cases name <;> rfl, by cases name <;> simp⟩)
  case closer =>
    split at h
    · cases h
    · next isCall rest opened =>
      cases h
      exact .inr (.inr ⟨rfl, isCall, rfl, opened⟩)
  case comma =>
    cases h
    refine .inl ⟨?_, ?_, rfl⟩ <;> split <;>
      simp [Token.isOpening, Token.isClosing, Token.comma]
  all_goals cases h

theorem Opens.step {l : Lexeme} {before : List Token} (h : Opens s.opened before)
    (one : tokenOf s l = .ok (t, s')) : Opens s'.opened (before ++ [t]) := by
  rcases opened_tokenOf one with ⟨notOpening, notClosing, same⟩ | ⟨opens, isCall, kind, more⟩ |
    ⟨closes, isCall, kind, fewer⟩
  · rw [same]
    exact h.append (.token notOpening notClosing .nil)
  · rw [more]
    exact .group isCall h opens kind .nil
  · rw [fewer] at h
    cases h with
    | @group opened outer inside opener _ around opens kind' nested =>
      rw [List.append_assoc, List.cons_append]
      refine around.append (.group opens closes ?_ (kind.trans kind'.symm) nested .nil)
      cases isCall <;> simp [kind', groupKind]

/-- The groups that are open while lexemes are read. -/
theorem Reads.opens {before : List Token} (h : Reads s ls ts s') (start : Opens s.opened before) :
    Opens s'.opened (before ++ ts) := by
  induction h generalizing before with
  | nil => simpa using start
  | cons one _ ih =>
    have := ih (start.step one)
    rwa [List.append_assoc, List.singleton_append] at this

/-! ## The innermost group -/

/-- The opening parentheses of the groups that are open after tokens, the innermost first, given
those that are open before them. -/
def openers (before : List Token) (ts : List Token) : List Token :=
  ts.foldl (fun opened t =>
    if t.isOpening then t :: opened else if t.isClosing then opened.tail else opened) before

theorem openers_append (before xs ys : List Token) :
    openers before (xs ++ ys) = openers (openers before xs) ys := List.foldl_append ..

theorem openers_cons (before : List Token) (t : Token) (ts : List Token) :
    openers before (t :: ts) = openers (if t.isOpening then t :: before else
      if t.isClosing then before.tail else before) ts := rfl

theorem openers_of_nested (nested : Nested ts) (before : List Token) :
    openers before ts = before := by
  induction nested generalizing before with
  | nil => rfl
  | token notOpening notClosing _ ih => rw [openers_cons, if_neg notOpening, if_neg notClosing, ih]
  | group opens closes _ _ _ _ ihInside ihRest =>
    have notOpening := fun h => Token.not_isClosing_of_isOpening h closes
    rw [openers_cons, if_pos opens, openers_append, ihInside, openers_cons, if_neg notOpening,
      if_pos closes, List.tail_cons, ihRest]

theorem Opens.head?_iff (h : Opens opened ts) :
    opened.head? = some true ↔ ∃ opener, Encloses opener ts ∧ opener.kind = .call := by
  -- Two ways to take the tokens apart agree in the innermost group.
  have innermost {opener : Token} (outer : List Token) {inside : List Token}
      (opens : opener.isOpening) (nested : Nested inside) :
      openers [] (outer ++ opener :: inside) = opener :: openers [] outer := by
    rw [openers_append, openers_cons, if_pos opens, openers_of_nested nested]
  constructor
  · intro call
    cases h with
    | nested => cases call
    | @group _ outer inside opener _ _ opens kind nested =>
      cases call
      exact ⟨opener, ⟨outer, inside, rfl, opens, nested⟩, kind⟩
  · rintro ⟨opener, ⟨outer, inside, split, opens, nested⟩, kind⟩
    have last := innermost outer opens nested
    cases h with
    | nested all =>
      rw [← split, openers_of_nested all] at last
      cases last
    | group isCall _ opens' kind' nested' =>
      rw [← split, innermost _ opens' nested'] at last
      obtain ⟨rfl, -⟩ := List.cons.inj last
      cases isCall with
      | true => rfl
      | false => cases kind.symm.trans kind'

/-! ## Whole texts -/

/-- A comma outside of quoted runs is a token, and separates exactly if the innermost group around
it is a call. -/
def CommasSeparate (body : Text) (tokens : List Token) : Prop :=
  ∀ before after, body = before ++ ',' :: after → Even (before.count '"') →
    ∃ left token right, tokens = left ++ token :: right ∧ Token.spell left = before ∧
      token.text = [','] ∧
      (token.kind = .separator ↔ ∃ opener, Encloses opener left ∧ opener.kind = .call)

theorem Reads.commasSeparate {body : Text} (h : Reads {} (ofText body) ts s) :
    CommasSeparate body ts := by
  rintro before after rfl unquoted
  obtain ⟨ks, ls, found, spelled⟩ := ofText_comma unquoted after
  rw [found] at h
  obtain ⟨mid, left, _, first, later, rfl⟩ := reads_append.1 h
  obtain ⟨token, next, right, one, _, rfl⟩ := reads_cons.1 later
  have opens : Opens mid.opened left := first.opens (.nested .nil)
  refine ⟨left, token, right, rfl, first.spell.trans spelled, text_tokenOf one, ?_⟩
  rw [← opens.head?_iff]
  cases one
  split <;> simp [*, Token.comma]

/-- Which texts can be read as formulas, and how their tokens are nested. -/
theorem scan_nested (marker : Char) (body : Text) :
    ((∃ tokens, scan marker (marker :: body) = .ok tokens) ↔ IsBody body) ∧
    ∀ tokens, scan marker (marker :: body) = .ok tokens →
      Nested tokens ∧ CommasSeparate body tokens := by
  simp only [scan_formula]
  refine ⟨?_, fun tokens ⟨s, read, closed⟩ => ⟨?_, read.commasSeparate⟩⟩
  · rw [isBody_iff]
    exact exists_reads_iff
  · have opens := read.opens (.nested .nil)
    rw [closed] at opens
    cases opens with
    | nested nested => exact nested

/-- Quoted commas and parentheses do not count, and a comma in a group within a call is no
separator. -/
theorem scan_nested_calls :
    let body : Text := "IF(A1=\"(,\"\"\",SUM(B1,(C1,D1)),-1)"
    ∃ tokens, scan '=' ('=' :: body) = .ok tokens ∧ Nested tokens ∧ CommasSeparate body tokens := by
  intro body
  have succeeds : (scan '=' ('=' :: body)).isOk = true := by decide +kernel
  cases h : scan '=' ('=' :: body) with
  | error e => simp [h, Except.isOk, Except.toBool] at succeeds
  | ok tokens => exact ⟨tokens, rfl, (scan_nested '=' body).2 tokens h⟩

end JoinSheet.Formula
