import JoinSheet.Formula.Lexeme
import Mathlib.Algebra.Group.Nat.Even

/-!
# What a text tells of its lexemes

A double quote starts a quoted run or ends one, and nothing else decides whether a character lies
within one. Outside of quoted runs every parenthesis, every comma and every character of array
notation ends up in a lexeme of its own, the name before an opening parenthesis apart.

## Main definitions

* `Formula.outside` — a text without its quoted runs.
* `Lexeme.feedAll` — the lexemes that a text finishes, and the state after it.
* `Lexeme.mark` — what of a lexeme the nesting of a formula depends on.

## Main statements

* `Lexeme.text_ne_nil_of_mem_ofText` — no lexeme is empty.
* `Lexeme.any_isUnclosed_ofText` — a closing quote is missing if the number of quotes is odd.
* `Lexeme.flatMap_mark_ofText` — the marks of the lexemes are those outside of quoted runs.
* `Lexeme.ofText_comma` — a comma outside of quoted runs is a lexeme.
-/

namespace JoinSheet

namespace Formula

/-- The characters of a text outside of quoted runs, where `quoted` says whether the text starts
within one. -/
def outsideFrom (quoted : Bool) : Text → Text
  | [] => []
  | c :: rest =>
    if c = '"' then outsideFrom (!quoted) rest
    else if quoted then outsideFrom quoted rest
    else c :: outsideFrom quoted rest

/-- The characters of a text outside of quoted runs. Every double quote starts a run or ends one. -/
def outside (t : Text) : Text := outsideFrom false t

end Formula

open Formula

namespace Lexeme

variable {state : State} {c : Char} {t : Text} {l : Lexeme}

/-- Whether the automaton is within a quoted run. -/
def State.isQuoted : State → Bool
  | quote _ => true
  | _ => false

@[simp] theorem isQuoted_idle : State.idle.isQuoted = false := rfl
@[simp] theorem isQuoted_word (t : Text) : (State.word t).isQuoted = false := rfl
@[simp] theorem isQuoted_blanks (t : Text) : (State.blanks t).isQuoted = false := rfl
@[simp] theorem isQuoted_quote (t : Text) : (State.quote t).isQuoted = true := rfl
@[simp] theorem isQuoted_quoteEnd (t : Text) : (State.quoteEnd t).isQuoted = false := rfl
@[simp] theorem isQuoted_angle (c : Char) : (State.angle c).isQuoted = false := rfl

/-- Whether a lexeme lacks its closing quote. -/
def isUnclosed : Lexeme → Bool
  | unclosed _ => true
  | _ => false

/-- The parenthesis or the character of array notation in a lexeme that is not quoted. -/
def mark : Lexeme → Text
  | opener _ => ['(']
  | closer => [')']
  | unsupported c => [c]
  | _ => []

/-- The characters that are marks. -/
def isMark (c : Char) : Bool := c = '(' || c = ')' || isArrayChar c

theorem eq_of_isMark (h : isMark c) : c = '(' ∨ c = ')' ∨ c = '{' ∨ c = '}' ∨ c = ';' := by
  simpa [isMark, isArrayChar, or_assoc] using h

theorem isMark_eq_false (h : c = '"' ∨ c = ',' ∨ isSpace c ∨ isOperatorChar c) :
    isMark c = false := by
  by_contra marked
  rcases eq_of_isMark (by simpa using marked) with rfl | rfl | rfl | rfl | rfl <;>
    exact absurd h (by decide)

theorem isMark_of_continuesWord {taken : Text} (h : continuesWord taken c) : isMark c = false := by
  by_contra marked
  rcases eq_of_isMark (by simpa using marked) with rfl | rfl | rfl | rfl | rfl <;>
    exact absurd h (by simp [continuesWord, isDelimiter, isArrayChar])

/-! ## One character -/

theorem isQuoted_start (c : Char) : (start c).2.isQuoted = decide (c = '"') := by
  unfold start
  repeat' split
  all_goals simp_all

theorem isQuoted_feed (state : State) (c : Char) :
    (feed state c).2.isQuoted = (state.isQuoted ^^ decide (c = '"')) := by
  cases state <;> simp only [feed]
  case idle => simp [isQuoted_start]
  case quote taken => by_cases h : c = '"' <;> simp [h]
  case word taken =>
    split
    · grind [continuesWord, isDelimiter, isQuoted_word]
    · split
      · grind [isQuoted_word, isQuoted_idle]
      · simp [startAfter, isQuoted_start]
  all_goals
    split
    · grind [isQuoted_idle, isQuoted_blanks, isQuoted_quoteEnd, isQuoted_quote, isQuoted_angle,
        isSpace]
    · simp [startAfter, isQuoted_start]

theorem mark_start (c : Char) : (start c).1.flatMap mark = [c].filter isMark := by
  unfold start
  split
  case isTrue quote => simp [isMark_eq_false (.inl quote)]
  split
  case isTrue space => simp [isMark_eq_false (c := c) (by simp [space])]
  split
  case isTrue angle => rcases angle with rfl | rfl <;> rfl
  split
  case isTrue operator => simp [isMark_eq_false (c := c) (by simp [operator]), mark]
  split
  case isTrue opening => simp [opening, isMark, mark]
  split
  case isTrue closing => simp [closing, isMark, mark]
  split
  case isTrue comma => simp [isMark_eq_false (c := c) (by simp [comma]), mark]
  case isFalse opening closing _ =>
    split
    case isTrue array => simp [isMark, array, mark]
    case isFalse array => simp [isMark, opening, closing, array]

theorem mark_feed (state : State) (c : Char) :
    (feed state c).1.flatMap mark = if state.isQuoted then [] else [c].filter isMark := by
  -- A character that ends a lexeme starts the next one, and is looked at there.
  cases state <;> simp only [feed, State.isQuoted]
  case idle => exact mark_start c
  case quote taken => rfl
  case word taken =>
    split
    case isTrue more => simp [isMark_of_continuesWord more]
    split
    case isTrue opening => simp [opening, mark, isMark]
    case isFalse => simp [startAfter, mark_start, mark]
  case blanks taken =>
    split
    case isTrue space => simp [isMark_eq_false (c := c) (by simp [space])]
    case isFalse => simp [startAfter, mark_start, mark]
  case quoteEnd taken =>
    split
    case isTrue quote => simp [isMark_eq_false (.inl quote)]
    case isFalse => simp [startAfter, mark_start, mark]
  case angle a =>
    split
    case isTrue second => rcases second with rfl | ⟨-, rfl⟩ <;> rfl
    case isFalse => simp [startAfter, mark_start, mark]

/-- A lexeme has been started, or else nothing of it has been read. -/
def State.IsProper (state : State) : Prop := state = .idle ∨ state.pending ≠ []

theorem isProper_start (c : Char) : (start c).2.IsProper := by
  unfold start State.IsProper
  repeat' split
  all_goals simp

theorem isProper_feed (state : State) (c : Char) : (feed state c).2.IsProper := by
  cases state <;> simp only [feed, startAfter]
  case idle => exact isProper_start c
  case quote => split <;> exact .inr (by simp)
  case word =>
    split
    · exact .inr (by simp)
    · split
      · exact .inl rfl
      · exact isProper_start c
  case angle =>
    split
    · exact .inl rfl
    · exact isProper_start c
  all_goals
    split
    · exact .inr (by simp)
    · exact isProper_start c

/-- A lexeme that is finished before the end of the text. -/
structure IsFinished (l : Lexeme) : Prop where
  text_ne_nil : l.text ≠ []
  closed : l.isUnclosed = false
  array : ∀ c, l = unsupported c → isArrayChar c

theorem isFinished_of_mem_start (h : l ∈ (start c).1) : l.IsFinished := by
  unfold start at h
  repeat' split at h
  all_goals simp only [List.not_mem_nil, List.mem_singleton] at h
  all_goals
    subst h
    constructor <;> simp_all [text, isUnclosed]

theorem isFinished_of_mem_startAfter {k : Lexeme} (before : k.IsFinished)
    (h : l ∈ (startAfter k c).1) : l.IsFinished := by
  obtain rfl | h := List.mem_cons.1 h
  · exact before
  · exact isFinished_of_mem_start h

theorem isFinished_of_mem_feed (proper : state.IsProper) (h : l ∈ (feed state c).1) :
    l.IsFinished := by
  have taken : state = .idle ∨ state.pending ≠ [] := proper
  cases state <;> simp only [feed] at h
  case idle => exact isFinished_of_mem_start h
  case quote => cases h
  case word =>
    split at h
    · cases h
    · split at h
      · obtain rfl := List.mem_singleton.1 h
        exact ⟨by simp [text], rfl, by simp⟩
      · exact isFinished_of_mem_startAfter ⟨by simpa [text] using taken, rfl, by simp⟩ h
  case angle =>
    split at h
    · obtain rfl := List.mem_singleton.1 h
      exact ⟨by simp [text], rfl, by simp⟩
    · exact isFinished_of_mem_startAfter ⟨by simp [text], rfl, by simp⟩ h
  all_goals
    split at h
    · cases h
    · exact isFinished_of_mem_startAfter ⟨by simpa [text] using taken, rfl, by simp⟩ h

/-! ## Many characters -/

/-- The lexemes that a text finishes, and the state after it. -/
def feedAll (state : State) : Text → List Lexeme × State
  | [] => ([], state)
  | c :: rest => ((feed state c).1 ++ (feedAll (feed state c).2 rest).1,
      (feedAll (feed state c).2 rest).2)

theorem run_append (state : State) (t u : Text) :
    run state (t ++ u) = (feedAll state t).1 ++ run (feedAll state t).2 u := by
  induction t generalizing state with
  | nil => rfl
  | cons c rest ih => simp [run, feedAll, ih]

theorem run_eq (state : State) (t : Text) :
    run state t = (feedAll state t).1 ++ finish (feedAll state t).2 := by
  simpa [run] using run_append state t []

theorem spell_feedAll (state : State) (t : Text) :
    spell (feedAll state t).1 ++ (feedAll state t).2.pending = state.pending ++ t := by
  rw [← spell_finish, ← spell_append, ← run_eq, spell_run]

theorem isQuoted_feedAll (state : State) (t : Text) :
    (feedAll state t).2.isQuoted = (state.isQuoted ^^ !decide (Even (t.count '"'))) := by
  induction t generalizing state with
  | nil => simp [feedAll]
  | cons c rest ih =>
    rw [feedAll, ih, isQuoted_feed, List.count_cons]
    by_cases quote : c = '"'
    · have odd : decide (Even (rest.count '"' + 1)) = !decide (Even (rest.count '"')) := by
        rw [← decide_not, decide_eq_decide]
        exact Nat.even_add_one
      simp only [quote, decide_true, beq_self_eq_true, if_true, odd]
      cases state.isQuoted <;> cases decide (Even (rest.count '"')) <;> rfl
    · simp [quote]

theorem isProper_feedAll (proper : state.IsProper) : (feedAll state t).2.IsProper := by
  induction t generalizing state with
  | nil => exact proper
  | cons c rest ih => exact ih (isProper_feed state c)

theorem isFinished_of_mem_feedAll (proper : state.IsProper) (h : l ∈ (feedAll state t).1) :
    l.IsFinished := by
  induction t generalizing state with
  | nil => cases h
  | cons c rest ih =>
    obtain h | h := List.mem_append.1 h
    · exact isFinished_of_mem_feed proper h
    · exact ih (isProper_feed state c) h

theorem filter_isMark_outsideFrom (quoted : Bool) (c : Char) (rest : Text) :
    (outsideFrom quoted (c :: rest)).filter isMark = (if quoted then [] else [c].filter isMark) ++
      (outsideFrom (quoted ^^ decide (c = '"')) rest).filter isMark := by
  by_cases quote : c = '"'
  · subst quote
    cases quoted <;> rfl
  · cases quoted <;> simp [outsideFrom, quote, List.filter_cons]
    split <;> rfl

theorem mark_feedAll (state : State) (t : Text) :
    (feedAll state t).1.flatMap mark = (outsideFrom state.isQuoted t).filter isMark := by
  induction t generalizing state with
  | nil => rfl
  | cons c rest ih =>
    rw [feedAll, List.flatMap_append, ih, mark_feed, isQuoted_feed, filter_isMark_outsideFrom]

theorem start_comma : start ',' = ([comma], .idle) := rfl

/-- Outside of quoted runs a comma finishes the lexeme before it and is one itself. -/
theorem exists_feed_comma (unquoted : state.isQuoted = false) :
    ∃ done, feed state ',' = (done ++ [comma], .idle) := by
  cases state with
  | idle => exact ⟨[], rfl⟩
  | word taken => exact ⟨[word taken.reverse], rfl⟩
  | blanks taken => exact ⟨[blanks taken.reverse], rfl⟩
  | quote taken => cases unquoted
  | quoteEnd taken => exact ⟨[quoted taken.reverse], rfl⟩
  | angle a => exact ⟨[operator [a]], by simp [feed, startAfter, start_comma]⟩

/-! ## The whole text -/

/-- At the end of a text, a lexeme may only lack its closing quote. -/
theorem isFinished_or_of_mem_ofText (h : l ∈ ofText t) :
    l.IsFinished ∨ l.isUnclosed ∧ l.text ≠ [] := by
  have proper : State.idle.IsProper := .inl rfl
  rw [ofText, run_eq] at h
  obtain h | h := List.mem_append.1 h
  · exact .inl (isFinished_of_mem_feedAll proper h)
  · have started := isProper_feedAll (t := t) proper
    generalize (feedAll .idle t).2 = last at started h
    cases last <;> simp only [finish, List.not_mem_nil, List.mem_singleton] at h <;> subst h
    case quote => exact .inr ⟨rfl, by simpa [State.IsProper, text] using started⟩
    case angle => exact .inl ⟨by simp [text], rfl, by simp⟩
    all_goals exact .inl ⟨by simpa [State.IsProper, text] using started, rfl, by simp⟩

/-- No lexeme is empty. -/
theorem text_ne_nil_of_mem_ofText (h : l ∈ ofText t) : l.text ≠ [] := by
  obtain finished | ⟨-, written⟩ := isFinished_or_of_mem_ofText h
  · exact finished.text_ne_nil
  · exact written

theorem isArrayChar_of_mem_ofText (h : unsupported c ∈ ofText t) : isArrayChar c := by
  obtain finished | ⟨⟨⟩, -⟩ := isFinished_or_of_mem_ofText h
  exact finished.array c rfl

/-- The closing quote of a run is missing if the number of quotes is odd. -/
theorem any_isUnclosed_ofText (t : Text) :
    (ofText t).any isUnclosed = !decide (Even (t.count '"')) := by
  have last := isQuoted_feedAll .idle t
  rw [isQuoted_idle, Bool.false_xor] at last
  have finished : (feedAll .idle t).1.any isUnclosed = false := by
    simpa using fun l mem => (isFinished_of_mem_feedAll (.inl rfl) mem).closed
  rw [ofText, run_eq, List.any_append, finished, ← last, Bool.false_or]
  cases (feedAll .idle t).2 <;> rfl

/-- The marks of the lexemes are those outside of quoted runs. -/
theorem flatMap_mark_ofText (t : Text) : (ofText t).flatMap mark = (outside t).filter isMark := by
  have finished : (finish (feedAll .idle t).2).flatMap mark = [] := by
    cases (feedAll .idle t).2 <;> rfl
  rw [ofText, run_eq, List.flatMap_append, mark_feedAll, finished, List.append_nil]
  rfl

/-- A comma outside of quoted runs is a lexeme. -/
theorem ofText_comma {before : Text} (unquoted : Even (before.count '"')) (after : Text) :
    ∃ ks ls, ofText (before ++ ',' :: after) = ks ++ comma :: ls ∧ spell ks = before := by
  have last : (feedAll .idle before).2.isQuoted = false := by simp [isQuoted_feedAll, unquoted]
  obtain ⟨done, fed⟩ := exists_feed_comma last
  refine ⟨(feedAll .idle before).1 ++ done, run .idle after, ?_, ?_⟩
  · simp [ofText, run_append, run, fed]
  -- The lexemes that the comma finishes are what has been pending before it.
  · have spelled := spell_feed (feedAll .idle before).2 ','
    rw [fed, spell_append, pending_idle, List.append_nil] at spelled
    have pending : spell done = (feedAll .idle before).2.pending :=
      List.append_inj_left' spelled rfl
    simpa [pending] using spell_feedAll .idle before

end Lexeme

end JoinSheet
