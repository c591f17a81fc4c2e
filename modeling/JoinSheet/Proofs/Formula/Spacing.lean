import JoinSheet.Proofs.Evaluation.Arguments
import JoinSheet.Proofs.Formula.Boundary
import JoinSheet.Proofs.Sheet.Values

/-!
# Blanks between tokens

A blank ends every lexeme that does not end itself, and what is blank plays no part in what a sign, a
comma or a parenthesis means. So blanks can be put between the tokens of a formula without changing
any of the others, nor what the formula evaluates to.

## Main definitions

* `Formula.Spaced` — texts in a row with blanks around them.

## Main statements

* `Lexeme.filter_run_spaced` — blanks between lexemes change no lexeme that is not blank.
* `Formula.Reads.exists_of_filter` — lexemes are read as they are without the blanks among them.
* `Formula.scan_spaced` — blanks between tokens change no token that is not blank, and no value.
-/

namespace JoinSheet

open Lexeme

/-- The texts in a row, with any spaces and line feeds before, between and behind them. -/
inductive Formula.Spaced : List Text → Text → Prop where
  | nil {pad : Text} (blank : ∀ c ∈ pad, isSpace c) : Spaced [] pad
  | cons {pad t rest : Text} {ts : List Text} (blank : ∀ c ∈ pad, isSpace c)
      (later : Spaced ts rest) : Spaced (t :: ts) (pad ++ (t ++ rest))

open Formula (Spaced)

namespace Lexeme

variable {state : State} {c : Char} {l : Lexeme} {ls : List Lexeme} {t pad taken : Text}
  {next : Option Char}

/-- Whether a lexeme is more than blanks. -/
def isPrinted : Lexeme → Bool
  | blanks _ => false
  | _ => true

/-! ## Blanks -/

theorem start_of_isSpace (h : isSpace c) : start c = ([], .blanks [c]) := by
  have spaces : c = ' ' ∨ c = '\n' := by simpa [isSpace] using h
  obtain rfl | rfl := spaces <;> rfl

theorem start_eq_blanks : start c = ([], .blanks taken) ↔ isSpace c ∧ taken = [c] := by
  by_cases space : isSpace c
  · simp [start_of_isSpace space, space, eq_comm]
  · unfold start
    repeat' split
    all_goals simp_all

theorem feed_eq_blanks : feed state c = ([], .blanks (c :: taken)) ↔
    isSpace c ∧ (state = .blanks taken ∨ state = .idle ∧ taken = []) := by
  cases state <;> simp only [feed]
  case idle => simp [start_eq_blanks]
  case blanks => split <;> simp_all [startAfter]
  case quote => split <;> simp
  case quoteEnd => split_ifs <;> simp [startAfter]
  case word => split_ifs <;> simp [startAfter]
  case angle => split_ifs <;> simp [startAfter]

theorem isSpace_of_feedAll (h : feedAll .idle t = ([], .blanks t.reverse)) :
    ∀ c ∈ t, isSpace c := by
  induction t using List.reverseRecOn with
  | nil => simp
  | append_singleton t c ih =>
    rw [List.reverse_append, List.reverse_singleton, List.singleton_append] at h
    obtain ⟨state, before, step⟩ := feedAll_concat.1 h
    obtain ⟨space, rfl | ⟨rfl, nothing⟩⟩ := feed_eq_blanks.1 step
    · simpa [or_imp, forall_and, space] using ih before
    · obtain rfl : t = [] := by simpa using nothing
      simpa using space

/-- Blanks consist of spaces and line feeds. -/
theorem isSpace_of_isCompleteBefore (h : (Lexeme.blanks t).IsCompleteBefore next) :
    ∀ c ∈ t, isSpace c := by
  obtain ⟨⟨⟩, -⟩ | ⟨state, fed, finishes⟩ := h
  obtain rfl : state = .blanks t.reverse := by
    have last := finishes.finish_eq
    cases state <;> simp_all [finish, List.reverse_eq_iff]
  exact isSpace_of_feedAll fed

/-- Every lexeme but blanks ends before a blank, unless its closing quote is missing. -/
theorem IsCompleteBefore.space (h : l.IsCompleteBefore next) (printed : l.isPrinted)
    (closed : l.isUnclosed = false) (space : isSpace c) : l.IsCompleteBefore (some c) := by
  obtain itself | ⟨state, fed, finishes⟩ := h
  · exact .inl itself
  refine .inr ⟨state, fed, ?_⟩
  have last := finishes.finish_eq
  have spaces : c = ' ' ∨ c = '\n' := by simpa [isSpace] using space
  cases state <;> simp only [finish, List.cons.injEq, and_true, reduceCtorEq] at last <;> subst last
  case blanks => cases printed
  case quote => cases closed
  all_goals obtain rfl | rfl := spaces
  all_goals simp [State.Finishes, feed, continuesWord, isDelimiter, isSpace]

/-- Blanks that are pending do not change what is read after them. -/
theorem filter_run_blanks (taken t : Text) :
    (run (.blanks taken) t).filter isPrinted = (run .idle t).filter isPrinted := by
  induction t generalizing taken with
  | nil => simp [run, finish, isPrinted]
  | cons c t ih =>
    rw [run_cons, run_cons, feed, feed]
    by_cases space : isSpace c
    · rw [if_pos space, start_of_isSpace space, List.nil_append, List.nil_append, ih, ih]
    · rw [if_neg space]
      simp [startAfter, isPrinted]

theorem filter_run_append (blank : ∀ c ∈ pad, isSpace c) (t : Text) :
    (run .idle (pad ++ t)).filter isPrinted = (run .idle t).filter isPrinted := by
  induction pad with
  | nil => rfl
  | cons c pad ih =>
    obtain ⟨space, blank⟩ := List.forall_mem_cons.1 blank
    rw [List.cons_append, run_cons, feed, start_of_isSpace space, List.nil_append,
      filter_run_blanks, ih blank]

end Lexeme

/-- With blanks around them, texts start as without, or with a blank. -/
theorem Formula.Spaced.head? {ts : List Text} {t : Text} (h : Spaced ts t)
    (written : ∀ u ∈ ts, u ≠ []) :
    t.head? = ts.flatten.head? ∨ ∃ c, t.head? = some c ∧ isSpace c := by
  cases h with
  | nil blank =>
    cases t with
    | nil => exact .inl rfl
    | cons c t => exact .inr ⟨c, rfl, blank c List.mem_cons_self⟩
  | @cons pad t rest ts blank later =>
    cases pad with
    | nil =>
      have nonempty := written t List.mem_cons_self
      left
      rw [List.nil_append, List.flatten_cons, List.head?_append_of_ne_nil _ nonempty,
        List.head?_append_of_ne_nil _ nonempty]
    | cons c pad => exact .inr ⟨c, rfl, blank c List.mem_cons_self⟩

/-- Blanks between lexemes change no lexeme that is not blank. -/
theorem Lexeme.filter_run_spaced {ls : List Lexeme} {t : Text} (separated : Separated ls)
    (written : ∀ l ∈ ls, l.text ≠ []) (closed : ∀ l ∈ ls, l.isUnclosed = false)
    (spaced : Spaced (ls.map text) t) :
    (run .idle t).filter isPrinted = ls.filter isPrinted := by
  induction ls generalizing t with
  | nil =>
    obtain ⟨blank⟩ := spaced
    rw [← List.append_nil t, filter_run_append blank]
    rfl
  | cons l ls ih =>
    obtain ⟨complete, separated⟩ := separated
    obtain ⟨-, written⟩ := List.forall_mem_cons.1 written
    obtain ⟨closed, others⟩ := List.forall_mem_cons.1 closed
    obtain _ | @⟨pad, _, rest, _, blank, later⟩ := spaced
    have rest_eq := ih separated written others later
    rw [filter_run_append blank]
    by_cases printed : l.isPrinted
    · have complete' : l.IsCompleteBefore rest.head? := by
        obtain same | ⟨c, first, space⟩ := later.head? (by simpa using written)
        · rw [same, ← List.flatMap_def]
          exact complete
        · rw [first]
          exact complete.space printed closed space
      rw [run_of_isCompleteBefore complete', List.filter_cons, List.filter_cons, rest_eq]
    · -- Blanks may grow together with those around them.
      obtain ⟨t, rfl⟩ : ∃ t, l = .blanks t := by
        cases l <;> first | exact ⟨_, rfl⟩ | exact absurd rfl printed
      rw [text, filter_run_append (isSpace_of_isCompleteBefore complete), rest_eq,
        List.filter_cons_of_neg printed]

namespace Formula

variable {s s' : Surroundings} {l : Lexeme} {ls ks : List Lexeme} {t : Token} {ts us : List Token}
  {marker : Char} {body text : Text}

/-! ## Tokens -/

theorem isPrinted_tokenOf (h : tokenOf s l = .ok (t, s')) : t.isPrinted = l.isPrinted := by
  cases l <;> simp only [tokenOf] at h
  case operator =>
    cases h
    unfold operatorToken
    split_ifs <;> rfl
  case closer =>
    split at h
    · cases h
    · cases h
      split_ifs <;> rfl
  all_goals cases h
  case comma => split_ifs <;> rfl
  case opener => split_ifs <;> rfl
  all_goals simp [Token.isPrinted, Lexeme.isPrinted]

/-- A blank leaves the surroundings as they are. -/
theorem tokenOf_blank (blank : l.isPrinted = false) (s : Surroundings) :
    tokenOf s l = .ok (⟨.blank, .plain, l.text, none⟩, s) := by
  cases l <;> first | rfl | cases blank

theorem Reads.filter (h : Reads s ls ts s') :
    Reads s (ls.filter Lexeme.isPrinted) (ts.filter Token.isPrinted) s' := by
  induction h with
  | nil s => exact .nil s
  | @cons s mid s' l ls t ts first _ ih =>
    have same := isPrinted_tokenOf first
    by_cases printed : l.isPrinted
    · rw [List.filter_cons_of_pos printed, List.filter_cons_of_pos (same.trans printed)]
      exact .cons first ih
    · rw [List.filter_cons_of_neg printed, List.filter_cons_of_neg (same ▸ printed)]
      rw [tokenOf_blank (by simpa using printed)] at first
      cases first
      exact ih

/-- Lexemes are read as they are without the blanks among them. -/
theorem Reads.exists_of_filter (h : Reads s (ls.filter Lexeme.isPrinted) us s') :
    ∃ ts, Reads s ls ts s' ∧ ts.filter Token.isPrinted = us := by
  induction ls generalizing s us with
  | nil =>
    obtain ⟨rfl, rfl⟩ := reads_nil.1 h
    exact ⟨[], .nil s, rfl⟩
  | cons l ls ih =>
    by_cases printed : l.isPrinted
    · rw [List.filter_cons_of_pos printed] at h
      obtain ⟨t, mid, us, first, rest, rfl⟩ := reads_cons.1 h
      obtain ⟨ts, read, rfl⟩ := ih rest
      refine ⟨t :: ts, .cons first read, ?_⟩
      rw [List.filter_cons_of_pos ((isPrinted_tokenOf first).trans printed)]
    · rw [List.filter_cons_of_neg printed] at h
      obtain ⟨ts, read, rfl⟩ := ih h
      exact ⟨_, .cons (tokenOf_blank (by simpa using printed) s) read, rfl⟩

theorem Reads.map_text (h : Reads s ls ts s') : ts.map Token.text = ls.map Lexeme.text := by
  induction h with
  | nil => rfl
  | cons first _ ih => rw [List.map_cons, List.map_cons, text_tokenOf first, ih]

theorem Reads.closed (h : Reads s ls ts s') : ∀ l ∈ ls, l.isUnclosed = false := by
  induction h with
  | nil => exact nofun
  | @cons s _ _ l _ _ _ first _ ih =>
    refine List.forall_mem_cons.2 ⟨?_, ih⟩
    cases l <;> first | rfl | cases first

/-! ## Formulas -/

/-- Spaces and line feeds between the tokens of a formula mean nothing. However they are put in, behind
the marker, between any two tokens and at the end, the new text is a formula with the same tokens, but
for the blanks among them. These evaluate to the same on every sheet, and so do the texts where the
sheet marks formulas alike. -/
theorem scan_spaced (scanned : scan marker (marker :: body) = .ok ts)
    (spaced : Spaced (ts.map Token.text) text) :
    ∃ us, scan marker (marker :: text) = .ok us ∧
      us.filter (fun t => t.kind ≠ .blank) = ts.filter (fun t => t.kind ≠ .blank) ∧
      (∀ scope : Scope, scope.evaluate us = scope.evaluate ts) ∧
      ∀ (s : Sheet) (connection : Option Dialect), s.settings.marker = marker →
        s.valueToken connection (marker :: text) = s.valueToken connection (marker :: body) := by
  obtain ⟨final, read, closed⟩ := (scan_formula marker body).1 scanned
  have separated : Separated (Lexeme.ofText body) := (ofText_eq_iff.1 rfl).2
  have printed : (Lexeme.ofText text).filter Lexeme.isPrinted =
      (Lexeme.ofText body).filter Lexeme.isPrinted :=
    filter_run_spaced separated (fun _ => text_ne_nil_of_mem_ofText) read.closed
      (read.map_text ▸ spaced)
  obtain ⟨us, read', same⟩ := Reads.exists_of_filter (printed ▸ read.filter)
  have scanned' : scan marker (marker :: text) = .ok us :=
    (scan_formula marker text).2 ⟨final, read', closed⟩
  have evaluates (scope : Scope) : scope.evaluate us = scope.evaluate ts := by
    rw [Scope.evaluate, Scope.evaluate]
    exact congrArg _ same
  refine ⟨us, scanned', same, evaluates, ?_⟩
  rintro s connection rfl
  have first : s.scan (s.settings.marker :: text) = .ok us := scanned'
  have second : s.scan (s.settings.marker :: body) = .ok ts := scanned
  rw [Sheet.valueToken, Sheet.valueToken, first, second]
  exact evaluates ⟨s, connection⟩

/-- Around an operator, a sign, a number with an exponent and the name that a call starts with. -/
theorem scan_spaced_call :
    let body : Text := "SUM(A1--1E+5)"
    let text : Text := "\n SUM( A1 -\n- 1E+5)\n"
    ∃ ts us, scan '=' ('=' :: body) = .ok ts ∧ Spaced (ts.map Token.text) text ∧
      scan '=' ('=' :: text) = .ok us ∧
      us.filter (fun t => t.kind ≠ .blank) = ts.filter (fun t => t.kind ≠ .blank) ∧
      (∀ scope : Scope, scope.evaluate us = scope.evaluate ts) ∧
      ∀ (s : Sheet) (connection : Option Dialect), s.settings.marker = '=' →
        s.valueToken connection ('=' :: text) = s.valueToken connection ('=' :: body) := by
  intro body text
  have texts : (scan '=' ('=' :: body)).map (List.map Token.text) =
      .ok ["SUM(", "A1", "-", "-", "1E+5", ")"] := by decide +kernel
  obtain ⟨ts, scanned, texts⟩ := Except.map_eq_ok.1 texts
  have spelled : text = "\n ".toList ++ ("SUM(".toList ++ (" ".toList ++ ("A1".toList ++
      (" ".toList ++ ("-".toList ++ ("\n".toList ++ ("-".toList ++ (" ".toList ++ ("1E+5".toList ++
        ("".toList ++ (")".toList ++ "\n".toList))))))))))) := by decide +kernel
  have blank {pad : Text} (all : pad.all isSpace) : ∀ c ∈ pad, isSpace c := List.all_eq_true.1 all
  have spaced : Spaced (ts.map Token.text) text := by
    rw [texts, spelled]
    exact .cons (blank rfl) <| .cons (blank rfl) <| .cons (blank rfl) <| .cons (blank rfl) <|
      .cons (blank rfl) <| .cons (blank rfl) <| .nil (blank rfl)
  obtain ⟨us, alike⟩ := scan_spaced scanned spaced
  exact ⟨ts, us, scanned, spaced, alike⟩

end Formula

end JoinSheet
