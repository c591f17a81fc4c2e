import JoinSheet.Text.Basic

/-!
# Lexemes

A formula is cut into lexemes by an automaton that reads it once, character by character. Every
character ends up in exactly one lexeme, also those that no formula may contain, so the lexemes of a
text always spell it. What a lexeme means in its surroundings is decided later.

## Main definitions

* `Lexeme` — a piece of a formula.
* `Lexeme.State`, `Lexeme.feed` — the automaton and its step.
* `Lexeme.ofText` — the lexemes of a text.

## Main statements

* `Lexeme.spell_ofText` — the lexemes of a text spell it.
-/

namespace JoinSheet

/-- A piece of a formula. -/
inductive Lexeme where
  /-- A number, a name or a reference. -/
  | word (text : Text)
  /-- A text with the quotes around it. -/
  | quoted (text : Text)
  | blanks (text : Text)
  | operator (text : Text)
  /-- An opening parenthesis and the name that touches it, empty for a group. -/
  | opener (name : Text)
  | closer
  | comma
  /-- A character of array notation. -/
  | unsupported (c : Char)
  /-- A text whose closing quote is missing. -/
  | unclosed (text : Text)
  deriving DecidableEq, Repr

namespace Lexeme

/-- How a lexeme is written. -/
def text : Lexeme → Text
  | word t => t
  | quoted t => t
  | blanks t => t
  | operator t => t
  | opener name => name ++ ['(']
  | closer => [')']
  | comma => [',']
  | unsupported c => [c]
  | unclosed t => t

/-- The texts of lexemes in a row. -/
def spell (ls : List Lexeme) : Text := ls.flatMap text

@[simp] theorem spell_nil : spell [] = [] := rfl

@[simp] theorem spell_cons (l : Lexeme) (ls : List Lexeme) : spell (l :: ls) = l.text ++ spell ls :=
  rfl

@[simp] theorem spell_append (ks ls : List Lexeme) : spell (ks ++ ls) = spell ks ++ spell ls := by
  simp [spell]

/-! ## Classes of characters -/

/-- The characters that separate lexemes without meaning anything. -/
def isSpace (c : Char) : Bool := c = ' ' || c = '\n'

/-- The characters that operators consist of. -/
def isOperatorChar (c : Char) : Bool :=
  c = '+' || c = '-' || c = '*' || c = '/' || c = '^' || c = '&' || c = '=' || c = '>' || c = '<' ||
    c = '%'

/-- The characters of array notation. -/
def isArrayChar (c : Char) : Bool := c = '{' || c = '}' || c = ';'

/-- The characters that a word cannot contain, a sign within an exponent apart. -/
def isDelimiter (c : Char) : Bool :=
  isSpace c || isOperatorChar c || isArrayChar c || c = '"' || c = '(' || c = ')' || c = ','

/-- Whether a word, given backwards, is the start of a number up to the letter of its exponent. -/
def isExponentStem : Text → Bool
  | letter :: digits =>
    (letter = 'e' || letter = 'E') && digits.getLast?.any Char.isDigit &&
      digits.all (fun c => c.isDigit || c = '.') && digits.count '.' ≤ 1
  | [] => false

/-- Whether a word, given backwards, goes on with `c`. A sign belongs to a word only as the sign of an
exponent. -/
def continuesWord (taken : Text) (c : Char) : Bool :=
  !isDelimiter c || ((c = '+' || c = '-') && isExponentStem taken)

/-! ## The automaton -/

/-- What the automaton has read of the next lexeme, backwards. -/
inductive State where
  | idle
  | word (taken : Text)
  | blanks (taken : Text)
  /-- Within a quoted text. -/
  | quote (taken : Text)
  /-- After a quote that closes the text unless another one follows. -/
  | quoteEnd (taken : Text)
  /-- After `<` or `>`, which may be half of an operator. -/
  | angle (c : Char)
  deriving DecidableEq, Repr

/-- The characters of the unfinished lexeme. -/
def State.pending : State → Text
  | idle => []
  | word taken => taken.reverse
  | blanks taken => taken.reverse
  | quote taken => taken.reverse
  | quoteEnd taken => taken.reverse
  | angle c => [c]

/-- The lexemes that are finished by a first character of a new lexeme, and the new state. -/
def start (c : Char) : List Lexeme × State :=
  if c = '"' then ([], .quote [c])
  else if isSpace c then ([], .blanks [c])
  else if c = '<' ∨ c = '>' then ([], .angle c)
  else if isOperatorChar c then ([operator [c]], .idle)
  else if c = '(' then ([opener []], .idle)
  else if c = ')' then ([closer], .idle)
  else if c = ',' then ([comma], .idle)
  else if isArrayChar c then ([unsupported c], .idle)
  else ([], .word [c])

/-- The lexeme `l` is finished before the character `c`. -/
def startAfter (l : Lexeme) (c : Char) : List Lexeme × State :=
  let (done, state) := start c
  (l :: done, state)

/-- The lexemes that the next character finishes, and the new state. -/
def feed : State → Char → List Lexeme × State
  | .idle, c => start c
  | .word taken, c =>
    if continuesWord taken c then ([], .word (c :: taken))
    else if c = '(' then ([opener taken.reverse], .idle)
    else startAfter (word taken.reverse) c
  | .blanks taken, c =>
    if isSpace c then ([], .blanks (c :: taken)) else startAfter (blanks taken.reverse) c
  | .quote taken, c => ([], if c = '"' then .quoteEnd (c :: taken) else .quote (c :: taken))
  | .quoteEnd taken, c =>
    if c = '"' then ([], .quote (c :: taken)) else startAfter (quoted taken.reverse) c
  | .angle a, c =>
    if c = '=' ∨ (a = '<' ∧ c = '>') then ([operator [a, c]], .idle) else startAfter (operator [a]) c

/-- The lexemes that the end of the text finishes. -/
def finish : State → List Lexeme
  | .idle => []
  | .word taken => [word taken.reverse]
  | .blanks taken => [blanks taken.reverse]
  | .quote taken => [unclosed taken.reverse]
  | .quoteEnd taken => [quoted taken.reverse]
  | .angle a => [operator [a]]

/-- The lexemes of what follows in a state. -/
def run (state : State) : Text → List Lexeme
  | [] => finish state
  | c :: rest =>
    let (done, next) := feed state c
    done ++ run next rest

/-- The lexemes of a text. -/
def ofText (t : Text) : List Lexeme := run .idle t

/-! ## Nothing is lost -/

@[simp] theorem pending_idle : State.idle.pending = [] := rfl
@[simp] theorem pending_word (t : Text) : (State.word t).pending = t.reverse := rfl
@[simp] theorem pending_blanks (t : Text) : (State.blanks t).pending = t.reverse := rfl
@[simp] theorem pending_quote (t : Text) : (State.quote t).pending = t.reverse := rfl
@[simp] theorem pending_quoteEnd (t : Text) : (State.quoteEnd t).pending = t.reverse := rfl
@[simp] theorem pending_angle (c : Char) : (State.angle c).pending = [c] := rfl

theorem spell_start (c : Char) : spell (start c).1 ++ (start c).2.pending = [c] := by
  unfold start
  repeat' split
  all_goals simp_all [text]

theorem spell_startAfter (l : Lexeme) (c : Char) :
    spell (startAfter l c).1 ++ (startAfter l c).2.pending = l.text ++ [c] := by
  simp [startAfter, spell_start]

theorem spell_feed (state : State) (c : Char) :
    spell (feed state c).1 ++ (feed state c).2.pending = state.pending ++ [c] := by
  cases state <;> simp only [feed]
  case idle => simpa using spell_start c
  all_goals repeat' split
  all_goals simp [spell_startAfter, text]
  all_goals simp_all

theorem spell_finish (state : State) : spell (finish state) = state.pending := by
  cases state <;> simp [finish, text]

theorem spell_run (state : State) (t : Text) : spell (run state t) = state.pending ++ t := by
  induction t generalizing state with
  | nil => simp [run, spell_finish]
  | cons c rest ih =>
    rw [run, spell_append, ih, ← List.append_assoc, spell_feed]
    simp

/-- The lexemes of a text spell it. -/
theorem spell_ofText (t : Text) : spell (ofText t) = t := by
  simp [ofText, spell_run]

end Lexeme

end JoinSheet
