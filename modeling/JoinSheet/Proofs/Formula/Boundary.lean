import JoinSheet.Proofs.Formula.Lexing
import Mathlib.Data.List.Induction

/-!
# Boundaries of lexemes

Whether a lexeme ends where it does is decided by its own text and by the one character after it.
So a list of lexemes is what its spelling is cut into if each of them is complete before the first
character of the next one, and a word can be exchanged for another word that ends before the same
character.

## Main definitions

* `Lexeme.IsCompleteBefore` — a text is read as one lexeme if a certain character comes next.
* `Lexeme.Separated` — lexemes each of which is complete before the next one.
* `Lexeme.IsWord` — the texts that are read as one unfinished word.

## Main statements

* `Lexeme.ofText_eq_iff` — the lexemes of a text are the separated ones that spell it.
* `Lexeme.isCompleteBefore_word` — a word ends before a character that it cannot go on with.
* `Lexeme.isWord_append` — a word goes on with characters that are no delimiters.
-/

namespace JoinSheet

namespace Lexeme

variable {state after : State} {c : Char} {l : Lexeme} {ls : List Lexeme} {t u w taken : Text}
  {next : Option Char}

theorem feedAll_append (state : State) (t u : Text) : feedAll state (t ++ u) =
    ((feedAll state t).1 ++ (feedAll (feedAll state t).2 u).1, (feedAll (feedAll state t).2 u).2) := by
  induction t generalizing state with
  | nil => rfl
  | cons c t ih => simp [feedAll, ih]

/-- A text finishes no lexeme if no part of it does. -/
theorem feedAll_concat : feedAll state (t ++ [c]) = ([], after) ↔
    ∃ mid, feedAll state t = ([], mid) ∧ feed mid c = ([], after) := by
  have step (mid : State) : feedAll mid [c] = feed mid c := by simp [feedAll]
  rw [feedAll_append, step, Prod.mk.injEq, List.append_eq_nil_iff]
  constructor
  · rintro ⟨⟨nothing, more⟩, reached⟩
    exact ⟨_, Prod.ext nothing rfl, Prod.ext more reached⟩
  · rintro ⟨mid, before, last⟩
    rw [before, last]
    exact ⟨⟨rfl, rfl⟩, rfl⟩

theorem run_cons (state : State) (c : Char) (t : Text) :
    run state (c :: t) = (feed state c).1 ++ run (feed state c).2 t := rfl

/-! ## One lexeme -/

/-- Whether the last character of a lexeme may complete it. Other lexemes end where something else
begins. -/
def endsItself : Lexeme → Bool
  | word _ | quoted _ | blanks _ | unclosed _ => false
  | operator _ | opener _ | closer | comma | unsupported _ => true

/-- The state finishes the lexeme `l` before the next character, or at the end of the text. -/
def State.Finishes (state : State) (l : Lexeme) : Option Char → Prop
  | none => finish state = [l]
  | some c => feed state c = startAfter l c

/-- The text of the lexeme is read as this lexeme if the character `next` follows, or nothing. -/
def IsCompleteBefore (l : Lexeme) (next : Option Char) : Prop :=
  (l.endsItself ∧ feedAll .idle l.text = ([l], .idle)) ∨
    ∃ state, feedAll .idle l.text = ([], state) ∧ state.Finishes l next

theorem start_cases (c : Char) :
    (start c).1 = [] ∨ ∃ l, l.endsItself ∧ start c = ([l], .idle) := by
  unfold start
  repeat' split
  all_goals simp [endsItself]

/-- A character continues the unfinished lexeme, ends it, or is the first one after it. -/
theorem feed_cases (state : State) (c : Char) : (feed state c).1 = [] ∨
    (∃ l, l.endsItself ∧ feed state c = ([l], .idle)) ∨ ∃ l, feed state c = startAfter l c := by
  cases state <;> simp only [feed]
  case idle => exact (start_cases c).imp_right .inl
  case quote => exact .inl trivial
  case word taken =>
    split
    · exact .inl rfl
    · split
      · exact .inr (.inl ⟨_, rfl, rfl⟩)
      · exact .inr (.inr ⟨_, rfl⟩)
  case angle =>
    split
    · exact .inr (.inl ⟨_, rfl, rfl⟩)
    · exact .inr (.inr ⟨_, rfl⟩)
  all_goals
    split
    · exact .inl rfl
    · exact .inr (.inr ⟨_, rfl⟩)

theorem finish_cases (state : State) : finish state = [] ∨ ∃ l, finish state = [l] := by
  cases state <;> simp [finish]

/-- A complete lexeme is the first one of the text that it stands in front of. -/
theorem run_of_isCompleteBefore (h : l.IsCompleteBefore t.head?) :
    run .idle (l.text ++ t) = l :: run .idle t := by
  rw [run_append]
  obtain ⟨-, fed⟩ | ⟨state, fed, finishes⟩ := h
  · rw [fed]
    rfl
  · rw [fed, List.nil_append]
    cases t with
    | nil =>
      rw [run, show finish state = [l] from finishes]
      rfl
    | cons c rest =>
      rw [run, show feed state c = startAfter l c from finishes]
      rfl

/-- The first lexeme after a state that some text has led to, and what is left after it. -/
theorem isCompleteBefore_of_run (started : feedAll .idle u = ([], state))
    (h : run state t = l :: ls) :
    ∃ rest, u ++ t = l.text ++ rest ∧ ls = run .idle rest ∧ l.IsCompleteBefore rest.head? := by
  have pending : state.pending = u := by simpa [started] using spell_feedAll .idle u
  induction t generalizing state u with
  | nil =>
    obtain ended | ⟨l', ended⟩ := finish_cases state
    · rw [run, ended] at h
      cases h
    · rw [run, ended] at h
      cases h
      have whole : l.text = u := by simpa [ended, pending] using spell_finish state
      exact ⟨[], by simp [whole], rfl, .inr ⟨state, by rw [whole, started], ended⟩⟩
  | cons c t ih =>
    have spelled := spell_feed state c
    have fed : feedAll .idle (u ++ [c]) = feed state c := by
      rw [feedAll_append, started]
      simp [feedAll]
    rw [run_cons] at h
    obtain nothing | ⟨l', itself, whole⟩ | ⟨l', before⟩ := feed_cases state c
    · -- The lexeme goes on with `c`.
      rw [nothing, List.nil_append] at h
      have started' : feedAll .idle (u ++ [c]) = ([], (feed state c).2) := by
        rw [fed, ← nothing]
      rw [nothing, spell_nil, List.nil_append, pending] at spelled
      obtain ⟨rest, split, later, complete⟩ := ih started' h spelled
      exact ⟨rest, by simpa using split, later, complete⟩
    · -- The lexeme ends with `c`.
      rw [whole] at h spelled fed
      cases h
      have text : l.text = u ++ [c] := by simpa [pending] using spelled
      exact ⟨t, by simp [text], rfl, .inl ⟨itself, by rw [text, fed]⟩⟩
    · -- The lexeme has ended before `c`.
      rw [before] at h
      rw [before, spell_startAfter] at spelled
      have text : l'.text = u := by simpa [pending] using spelled
      cases h
      exact ⟨c :: t, by simp [text], rfl, .inr ⟨state, by rw [text, started], before⟩⟩

/-! ## Many lexemes -/

/-- Each lexeme is complete before the first character of those after it. -/
def Separated : List Lexeme → Prop
  | [] => True
  | l :: ls => l.IsCompleteBefore (spell ls).head? ∧ Separated ls

theorem separated_run (t : Text) : Separated (run .idle t) := by
  generalize h : run .idle t = ls
  induction ls generalizing t with
  | nil => trivial
  | cons l ls ih =>
    obtain ⟨rest, -, later, complete⟩ := isCompleteBefore_of_run (u := []) rfl h
    refine ⟨?_, ih rest later.symm⟩
    rwa [later, spell_run, pending_idle, List.nil_append]

theorem run_spell (h : Separated ls) : run .idle (spell ls) = ls := by
  induction ls with
  | nil => rfl
  | cons l ls ih => rw [spell_cons, run_of_isCompleteBefore h.1, ih h.2]

/-- The lexemes of a text are the separated ones that spell it. -/
theorem ofText_eq_iff : ofText t = ls ↔ spell ls = t ∧ Separated ls := by
  constructor
  · rintro rfl
    exact ⟨spell_ofText t, separated_run t⟩
  · rintro ⟨rfl, separated⟩
    exact run_spell separated

/-! ## Words -/

/-- The text is read as one word that has not ended yet. -/
def IsWord (w : Text) : Prop := feedAll .idle w = ([], .word w.reverse)

theorem isDelimiter_of_not_continuesWord (h : ¬continuesWord taken c) : isDelimiter c := by
  by_contra plain
  exact h (by simp [continuesWord, plain])

theorem continuesWord_eq_not_isDelimiter (h : isExponentStem taken = false) :
    continuesWord taken c = !isDelimiter c := by
  simp [continuesWord, h]

theorem start_of_not_isDelimiter (h : isDelimiter c = false) : start c = ([], .word [c]) := by
  simp only [isDelimiter, Bool.or_eq_false_iff, decide_eq_false_iff_not] at h
  obtain ⟨⟨⟨⟨⟨⟨space, operator⟩, array⟩, quote⟩, opening⟩, closing⟩, comma⟩ := h
  have angle : ¬(c = '<' ∨ c = '>') := by
    rintro (rfl | rfl) <;> exact absurd operator (by decide)
  simp [start, space, operator, array, quote, opening, closing, comma, angle]

theorem start_eq_word (h : (start c).2 = .word taken) : taken = [c] ∧ isDelimiter c = false := by
  unfold start at h
  repeat' split at h
  all_goals cases h
  simp_all [isDelimiter]

theorem feed_eq_word : feed state c = ([], .word (c :: taken)) ↔
    continuesWord taken c ∧ (state = .word taken ∨ state = .idle ∧ taken = []) := by
  constructor
  · intro fed
    cases state <;> simp only [feed] at fed
    case idle =>
      obtain ⟨alone, plain⟩ := start_eq_word (congrArg Prod.snd fed)
      obtain rfl : taken = [] := by simpa using alone
      exact ⟨by simp [continuesWord, plain], .inr ⟨rfl, rfl⟩⟩
    case word taken' =>
      split at fed
      next continues =>
        cases fed
        exact ⟨continues, .inl rfl⟩
      next => split at fed <;> cases fed
    case quote => split at fed <;> cases fed
    all_goals split at fed <;> cases fed
  · rintro ⟨continues, rfl | ⟨rfl, rfl⟩⟩
    · simp [feed, continues]
    · have plain : isDelimiter c = false := by simpa [continuesWord, isExponentStem] using continues
      exact start_of_not_isDelimiter plain

theorem isWord_concat :
    IsWord (w ++ [c]) ↔ continuesWord w.reverse c ∧ (IsWord w ∨ w = []) := by
  rw [IsWord, List.reverse_append, List.reverse_singleton, List.singleton_append, feedAll_concat]
  constructor
  · rintro ⟨mid, before, step⟩
    obtain ⟨continues, rfl | ⟨rfl, nothing⟩⟩ := feed_eq_word.1 step
    · exact ⟨continues, .inl before⟩
    · exact ⟨continues, .inr (by simpa using nothing)⟩
  · rintro ⟨continues, word | rfl⟩
    · exact ⟨_, word, feed_eq_word.2 ⟨continues, .inl rfl⟩⟩
    · exact ⟨.idle, rfl, feed_eq_word.2 ⟨continues, .inr ⟨rfl, rfl⟩⟩⟩

/-- What stands before a place in a word is a word. -/
theorem IsWord.of_append (h : IsWord (w ++ t)) (written : w ≠ []) : IsWord w := by
  induction t using List.reverseRecOn with
  | nil => simpa using h
  | append_singleton t c ih =>
    rw [← List.append_assoc, isWord_concat] at h
    exact ih (h.2.resolve_right (by simp [written]))

/-- A word goes on with characters that are no delimiters. -/
theorem isWord_append (h : IsWord w) (plain : ∀ c ∈ t, isDelimiter c = false) :
    IsWord (w ++ t) := by
  induction t using List.reverseRecOn with
  | nil => simpa using h
  | append_singleton t c ih =>
    rw [← List.append_assoc, isWord_concat]
    refine ⟨by simp [continuesWord, plain c], .inl (ih fun d hd => plain d ?_)⟩
    exact List.mem_append_left _ hd

/-- A text that is the start of a number consists of digits, points and a letter for its exponent. -/
theorem isExponentStem_eq_false (mem : c ∈ taken)
    (other : ¬c.isDigit ∧ c ≠ '.' ∧ c ≠ 'e' ∧ c ≠ 'E') : isExponentStem taken = false := by
  obtain ⟨digit, point, lower, upper⟩ := other
  cases taken with
  | nil => cases mem
  | cons letter digits =>
    obtain rfl | mem := List.mem_cons.1 mem
    · simp [isExponentStem, lower, upper]
    · have odd : digits.all (fun c => c.isDigit || c = '.') = false :=
        List.all_eq_false.2 ⟨c, mem, by simp [digit, point]⟩
      simp [isExponentStem, odd]

/-- Behind a character that no number has, a word has no signs. -/
theorem IsWord.not_isDelimiter (h : IsWord (w ++ t)) {d : Char} (mem : d ∈ w)
    (other : ¬d.isDigit ∧ d ≠ '.' ∧ d ≠ 'e' ∧ d ≠ 'E') : ∀ c ∈ t, isDelimiter c = false := by
  induction t using List.reverseRecOn with
  | nil => simp
  | append_singleton t c ih =>
    rw [← List.append_assoc, isWord_concat] at h
    have word : IsWord (w ++ t) := h.2.resolve_right (by simp [List.ne_nil_of_mem mem])
    have plain : isDelimiter c = false := by
      have stem : isExponentStem (w ++ t).reverse = false :=
        isExponentStem_eq_false (List.mem_reverse.2 (List.mem_append_left t mem)) other
      have continues := h.1
      rw [continuesWord_eq_not_isDelimiter stem] at continues
      simpa using continues
    intro c' mem'
    obtain mem' | mem' := List.mem_append.1 mem'
    · exact ih word c' mem'
    · rwa [List.mem_singleton.1 mem']

theorem startAfter_ne_singleton (l l' : Lexeme) (c : Char) : startAfter l c ≠ ([l'], .idle) := by
  intro h
  have nothing : (start c).1 = [] := (List.cons.inj (congrArg Prod.fst h)).2
  have idle : (start c).2 = .idle := congrArg Prod.snd h
  have spelled := spell_start c
  rw [nothing, idle] at spelled
  cases spelled

/-- A lexeme that is finished before a character is finished at the end of the text as well. -/
theorem State.Finishes.finish_eq (h : state.Finishes l next) : finish state = [l] := by
  cases next with
  | none => exact h
  | some c =>
    cases state <;> simp only [Finishes, feed, startAfter] at h
    case idle =>
      have length := congrArg (fun r => r.1.length) h
      simp at length
    case quote => cases h
    case word =>
      split at h
      · cases h
      · split at h
        · exact absurd h.symm (startAfter_ne_singleton l _ c)
        · cases h
          rfl
    case angle =>
      split at h
      · exact absurd h.symm (startAfter_ne_singleton l _ c)
      · cases h
        rfl
    all_goals
      split at h <;> cases h
      rfl

theorem State.finishes_word : state.Finishes (.word w) next ↔
    state = .word w.reverse ∧ ∀ c ∈ next, ¬continuesWord w.reverse c ∧ c ≠ '(' := by
  constructor
  · intro h
    obtain rfl : state = .word w.reverse := by
      have last := h.finish_eq
      cases state <;> simp_all [finish, List.reverse_eq_iff]
    refine ⟨rfl, ?_⟩
    rintro c ⟨⟩
    simp only [Finishes, feed, startAfter] at h
    split at h
    · cases h
    next ends =>
      split at h
      · cases h
      next group => exact ⟨ends, group⟩
  · rintro ⟨rfl, ends⟩
    cases next with
    | none => simp [Finishes, finish]
    | some c =>
      obtain ⟨ends, group⟩ := ends c rfl
      simp [Finishes, feed, ends, group]

/-- A word ends before a character that it cannot go on with. -/
theorem isCompleteBefore_word : (word w).IsCompleteBefore next ↔
    IsWord w ∧ ∀ c ∈ next, ¬continuesWord w.reverse c ∧ c ≠ '(' := by
  constructor
  · rintro (⟨⟨⟩, -⟩ | ⟨state, fed, finishes⟩)
    obtain ⟨rfl, ends⟩ := State.finishes_word.1 finishes
    exact ⟨fed, ends⟩
  · rintro ⟨word, ends⟩
    exact .inr ⟨_, word, State.finishes_word.2 ⟨rfl, ends⟩⟩

end Lexeme

end JoinSheet
