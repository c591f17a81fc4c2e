import JoinSheet.Formula.Scan
import JoinSheet.Proofs.Formula.Lexing
import JoinSheet.Proofs.Success

/-!
# Nothing is lost in reading

The tokens of a formula are written as its lexemes are, one token for each lexeme. So they spell the
formula, and reading what they spell finds the same tokens again.

## Main definitions

* `Formula.Reads` — lexemes read as tokens, with the surroundings before and after them.

## Main statements

* `Formula.scan_formula` — the tokens of a formula are those that its lexemes are read as.
* `Formula.render_scan` — the tokens of a text render to the text, and to nothing else that is read
  differently.
-/

namespace JoinSheet.Formula

variable {s s' : Surroundings} {ls ks : List Lexeme} {ts : List Token} {marker : Char}

/-- The lexemes, met in the surroundings `s`, are read as the tokens, and leave the surroundings
`s'`. -/
inductive Reads : Surroundings → List Lexeme → List Token → Surroundings → Prop where
  | nil (s : Surroundings) : Reads s [] [] s
  | cons {s s' s'' : Surroundings} {l : Lexeme} {ls : List Lexeme} {t : Token} {ts : List Token}
      (first : tokenOf s l = .ok (t, s')) (rest : Reads s' ls ts s'') :
      Reads s (l :: ls) (t :: ts) s''

theorem reads_nil : Reads s [] ts s' ↔ ts = [] ∧ s = s' := by
  constructor
  · rintro ⟨⟩
    exact ⟨rfl, rfl⟩
  · rintro ⟨rfl, rfl⟩
    exact .nil s

theorem reads_cons {l : Lexeme} : Reads s (l :: ls) ts s' ↔
    ∃ t next rest, tokenOf s l = .ok (t, next) ∧ Reads next ls rest s' ∧ ts = t :: rest := by
  constructor
  · rintro ⟨⟩
    exact ⟨_, _, _, ‹_›, ‹_›, rfl⟩
  · rintro ⟨t, next, rest, first, later, rfl⟩
    exact .cons first later

theorem reads_append : Reads s (ks ++ ls) ts s' ↔
    ∃ mid first rest, Reads s ks first mid ∧ Reads mid ls rest s' ∧ ts = first ++ rest := by
  induction ks generalizing s ts with
  | nil =>
    constructor
    · intro h
      exact ⟨s, [], ts, .nil s, h, rfl⟩
    · rintro ⟨mid, first, rest, before, after, rfl⟩
      obtain ⟨rfl, rfl⟩ := reads_nil.1 before
      exact after
  | cons l ks ih =>
    rw [List.cons_append, reads_cons]
    constructor
    · rintro ⟨t, next, more, one, h, rfl⟩
      obtain ⟨mid, first, rest, before, after, rfl⟩ := ih.1 h
      exact ⟨mid, t :: first, rest, .cons one before, after, rfl⟩
    · rintro ⟨mid, _, rest, before, after, rfl⟩
      obtain ⟨t, next, first, one, others, rfl⟩ := reads_cons.1 before
      exact ⟨t, next, first ++ rest, one, ih.2 ⟨mid, first, rest, others, after, rfl⟩, rfl⟩

/-- The tokens of lexemes are those that they are read as, if every group is closed in the end. -/
theorem classify_eq_ok (s : Surroundings) (position : Nat) :
    classify s position ls = .ok ts ↔ ∃ s', Reads s ls ts s' ∧ s'.opened = [] := by
  induction ls generalizing s position ts with
  | nil =>
    simp only [classify, reads_nil]
    split
    next closed => simp [closed, eq_comm]
    next opened => simp [opened]
  | cons l ls ih =>
    simp only [classify, reads_cons]
    cases h : tokenOf s l with
    | error fault => simp
    | ok read =>
      obtain ⟨t, next⟩ := read
      rw [Except.map_eq_ok]
      simp only [ih]
      constructor
      · rintro ⟨rest, ⟨last, later, closed⟩, rfl⟩
        exact ⟨last, ⟨t, next, rest, rfl, later, rfl⟩, closed⟩
      · rintro ⟨last, ⟨_, _, rest, ⟨⟩, later, rfl⟩, closed⟩
        exact ⟨rest, ⟨last, later, closed⟩, rfl⟩

namespace Reads

theorem spell (h : Reads s ls ts s') : Token.spell ts = Lexeme.spell ls := by
  induction h with
  | nil => rfl
  | cons first _ ih => rw [Token.spell_cons, Lexeme.spell_cons, text_tokenOf first, ih]

theorem text_ne_nil (h : Reads s ls ts s') (written : ∀ l ∈ ls, l.text ≠ []) :
    ∀ t ∈ ts, t.text ≠ [] := by
  induction h with
  | nil => simp
  | cons first _ ih =>
    rw [List.forall_mem_cons] at written ⊢
    exact ⟨text_tokenOf first ▸ written.1, ih written.2⟩

end Reads

theorem kind_tokenOf {l : Lexeme} {t : Token} (h : tokenOf s l = .ok (t, s')) :
    t.kind ≠ .literal := by
  cases l <;> simp only [tokenOf] at h
  case operator =>
    cases h
    unfold operatorToken
    repeat' split
    all_goals simp
  case closer =>
    split at h
    · cases h
    · cases h
      simp only
      split <;> simp
  all_goals cases h
  case comma => split <;> simp [Token.comma]
  case opener => simp only; split <;> simp
  all_goals simp

theorem Reads.kind_ne_literal (h : Reads s ls ts s') : ∀ t ∈ ts, t.kind ≠ .literal := by
  induction h with
  | nil => simp
  | cons first _ ih => exact List.forall_mem_cons.2 ⟨kind_tokenOf first, ih⟩

theorem Reads.exists_tokenOf (h : Reads s ls ts s') :
    ∀ t ∈ ts, ∃ before l after, tokenOf before l = .ok (t, after) := by
  induction h with
  | nil => exact nofun
  | cons first _ ih => exact List.forall_mem_cons.2 ⟨⟨_, _, _, first⟩, ih⟩

/-! ## Whole texts -/

/-- The tokens of a formula are those that its lexemes are read as. -/
theorem scan_formula (marker : Char) (body : Text) : scan marker (marker :: body) = .ok ts ↔
    ∃ s, Reads {} (Lexeme.ofText body) ts s ∧ s.opened = [] := by
  rw [← classify_eq_ok {} marker.utf8Size, scan, if_pos rfl]
  cases classify {} marker.utf8Size (Lexeme.ofText body) <;> simp [Except.mapError]

/-- A text that is no formula is one literal. -/
theorem scan_literal {text : Text} (plain : text.head? ≠ some marker) :
    scan marker text = .ok [Token.ofLiteral text] := by
  cases text with
  | nil => rfl
  | cons c body => rw [scan, if_neg (by simpa using plain)]

/-- The tokens of a text are read from lexemes, unless the text is a literal. -/
theorem mem_of_scan {text : Text} (h : scan marker text = .ok ts) {t : Token} (mem : t ∈ ts) :
    t = .ofLiteral text ∨ ∃ before l after, tokenOf before l = .ok (t, after) := by
  by_cases formula : text.head? = some marker
  · obtain ⟨body, rfl⟩ := List.head?_eq_some_iff.1 formula
    obtain ⟨_, reads, -⟩ := (scan_formula marker body).1 h
    exact .inr (reads.exists_tokenOf t mem)
  · rw [scan_literal formula] at h
    cases h
    exact .inl (List.mem_singleton.1 mem)

theorem render_of_kind_ne_literal (formula : ∀ t ∈ ts, t.kind ≠ .literal) :
    Token.render marker ts = marker :: Token.spell ts := by
  unfold Token.render
  split
  next only => simp [formula only]
  next => rfl

theorem render_literal (text : Text) : Token.render marker [Token.ofLiteral text] = text := by
  unfold Token.ofLiteral
  split <;> simp [Token.render]

/-- Tokens render to the text that they are read from. -/
theorem render_of_scan {text : Text} (h : scan marker text = .ok ts) :
    Token.render marker ts = text := by
  by_cases formula : text.head? = some marker
  · obtain ⟨body, rfl⟩ := List.head?_eq_some_iff.1 formula
    obtain ⟨_, read, -⟩ := (scan_formula marker body).1 h
    rw [render_of_kind_ne_literal read.kind_ne_literal, read.spell, Lexeme.spell_ofText]
  · rw [scan_literal formula] at h
    cases h
    exact render_literal text

/-- Tokens render to the text that they are read from, and none of a formula's is empty. So the
rendered text is read as the same tokens. -/
theorem render_scan {text : Text} (h : scan marker text = .ok ts) :
    Token.render marker ts = text ∧
    (text.head? = some marker → ∀ t ∈ ts, t.text ≠ []) ∧
    scan marker (Token.render marker ts) = .ok ts := by
  have rendered := render_of_scan h
  refine ⟨rendered, fun formula => ?_, rendered ▸ h⟩
  obtain ⟨body, rfl⟩ := List.head?_eq_some_iff.1 formula
  obtain ⟨_, read, -⟩ := (scan_formula marker body).1 h
  exact read.text_ne_nil fun _ => Lexeme.text_ne_nil_of_mem_ofText

/-- Doubled quotes, the sign of an exponent, operators of two characters and a marker of several
bytes. -/
theorem render_scan_call :
    let text : Text := "≔IF(A1>=1.5E+3,\"a\"\"(b\",-Ü 2)"
    ∃ tokens, scan '≔' text = .ok tokens ∧ Token.render '≔' tokens = text ∧
      (text.head? = some '≔' → ∀ t ∈ tokens, t.text ≠ []) ∧
      scan '≔' (Token.render '≔' tokens) = .ok tokens := by
  intro text
  have succeeds : (scan '≔' text).isOk = true := by decide +kernel
  cases h : scan '≔' text with
  | error e => simp [h, Except.isOk, Except.toBool] at succeeds
  | ok tokens =>
    obtain ⟨rendered, written, again⟩ := render_scan h
    exact ⟨tokens, rfl, rendered, written, again⟩

end JoinSheet.Formula
