import JoinSheet.Formula.Token
import JoinSheet.Proofs.Formula.Boundary
import JoinSheet.Proofs.Formula.Reading

/-!
# Quoted texts

Between quotes, two quotes in a row stand for one that belongs to the text. So a quoted lexeme is a
text with its quotes doubled, between quotes, and it ends where anything but a quote follows. Taking
the outer quotes away and halving the others gives the text back.

## Main statements

* `Lexeme.isCompleteBefore_quoted` — which lexemes are quoted, and where they end.
* `Token.textValue_ofText`, `Token.toCell_ofCell` — the values of operands that are made of texts and
  of cells.
* `Formula.scan_ofText` — an operand that is made of a text is read back as the same operand.
-/

namespace JoinSheet

open Token (doubleQuotes)

theorem Token.doubleQuotes_append (s t : Text) :
    doubleQuotes (s ++ t) = doubleQuotes s ++ doubleQuotes t := by
  induction s with
  | nil => rfl
  | cons c s ih => by_cases quote : c = '"' <;> simp [doubleQuotes, quote, ih]

theorem Token.text_ofText (s : Text) : (ofText s).text = '"' :: doubleQuotes s ++ ['"'] := rfl

theorem Token.textValue_ofText (t : Text) : (Token.ofText t).textValue = t := by
  have inside : Token.unquote ('"' :: doubleQuotes t ++ ['"']) = doubleQuotes t := by
    simp [Token.unquote]
  rw [Token.textValue, if_pos ⟨rfl, rfl⟩, Token.ofText, inside, singleQuotes_doubleQuotes]

/-- What a cell shows is what is shown where it is referred to. -/
theorem Token.toCell_ofCell (c : Cell) : (Token.ofCell c).toCell = c := by
  unfold ofCell
  split
  · rfl
  next t =>
    split
    · rfl
    · split
      · rfl
      · rw [toCell, if_neg (by simp [ofText]), textValue_ofText]

namespace Lexeme

variable {state : State} {c : Char} {t taken : Text} {next : Option Char}

/-! ## One character -/

theorem start_ne_quoteEnd : start c ≠ ([], .quoteEnd taken) := by
  unfold start
  repeat' split
  all_goals simp

theorem start_eq_quote : start c = ([], .quote taken) ↔ c = '"' ∧ taken = ['"'] := by
  unfold start
  split
  next quote => simp [quote, eq_comm]
  next plain =>
    repeat' split
    all_goals simp [plain]

/-- Within quotes is where a quote has been read as the first of a text, or as the second of two in a
row, and any other character before which the text was within quotes already. -/
theorem feed_eq_quote : feed state c = ([], .quote (c :: taken)) ↔
    c = '"' ∧ (state = .idle ∧ taken = [] ∨ state = .quoteEnd taken) ∨
      c ≠ '"' ∧ state = .quote taken := by
  cases state <;> simp only [feed]
  case idle => simp [start_eq_quote]
  case quote => split <;> simp_all
  case quoteEnd => split <;> simp_all [startAfter]
  case word => split_ifs <;> simp [startAfter]
  case blanks => split_ifs <;> simp [startAfter]
  case angle => split_ifs <;> simp [startAfter]

/-- A text is closed by a quote within quotes. -/
theorem feed_eq_quoteEnd : feed state c = ([], .quoteEnd (c :: taken)) ↔
    c = '"' ∧ state = .quote taken := by
  cases state <;> simp only [feed]
  case idle => simp [start_ne_quoteEnd]
  case quote => split <;> simp_all
  case quoteEnd => split_ifs <;> simp [startAfter]
  case word => split_ifs <;> simp [startAfter]
  case blanks => split_ifs <;> simp [startAfter]
  case angle => split_ifs <;> simp [startAfter]

/-! ## Many characters -/

/-- A text with doubled quotes leaves the automaton within the quotes that it starts in. -/
theorem feedAll_doubleQuotes (taken s : Text) :
    feedAll (.quote taken) (doubleQuotes s) = ([], .quote ((doubleQuotes s).reverse ++ taken)) := by
  induction s generalizing taken with
  | nil => rfl
  | cons c s ih => by_cases quote : c = '"' <;> simp [doubleQuotes, feedAll, feed, quote, ih]

/-- Where the automaton is within quotes, or may leave them, it has read a quote and then a text with
doubled quotes. -/
theorem exists_doubleQuotes (t : Text) :
    (feedAll .idle t = ([], .quote t.reverse) → ∃ s, t = '"' :: doubleQuotes s) ∧
      (feedAll .idle t = ([], .quoteEnd t.reverse) → ∃ s, t = (Token.ofText s).text) := by
  induction t using List.reverseRecOn with
  | nil => simp [feedAll]
  | append_singleton t c ih =>
    obtain ⟨within, closed⟩ := ih
    rw [List.reverse_append, List.reverse_singleton, List.singleton_append]
    constructor
    · intro fed
      obtain ⟨state, before, step⟩ := feedAll_concat.1 fed
      obtain ⟨rfl, ⟨rfl, nothing⟩ | rfl⟩ | ⟨other, rfl⟩ := feed_eq_quote.1 step
      · obtain rfl : t = [] := by simpa using nothing
        exact ⟨[], rfl⟩
      · obtain ⟨s, rfl⟩ := closed before
        exact ⟨s ++ ['"'], by simp [Token.text_ofText, Token.doubleQuotes_append, doubleQuotes]⟩
      · obtain ⟨s, rfl⟩ := within before
        exact ⟨s ++ [c], by simp [Token.doubleQuotes_append, doubleQuotes, other]⟩
    · intro fed
      obtain ⟨state, before, step⟩ := feedAll_concat.1 fed
      obtain ⟨rfl, rfl⟩ := feed_eq_quoteEnd.1 step
      obtain ⟨s, rfl⟩ := within before
      exact ⟨s, rfl⟩

/-- A quoted lexeme is a text with doubled quotes between quotes, and it is complete before anything
but another quote. -/
theorem isCompleteBefore_quoted : (quoted t).IsCompleteBefore next ↔
    (∃ s, t = (Token.ofText s).text) ∧ next ≠ some '"' := by
  constructor
  · rintro (⟨⟨⟩, -⟩ | ⟨state, fed, finishes⟩)
    obtain rfl : state = .quoteEnd t.reverse := by
      have last := finishes.finish_eq
      cases state <;> simp_all [finish, List.reverse_eq_iff]
    refine ⟨(exists_doubleQuotes t).2 fed, ?_⟩
    rintro rfl
    simp [State.Finishes, feed, startAfter] at finishes
  · rintro ⟨⟨s, rfl⟩, other⟩
    refine .inr ⟨.quoteEnd (Token.ofText s).text.reverse, ?_, ?_⟩
    · have opened : feedAll .idle ('"' :: doubleQuotes s) =
          ([], .quote ('"' :: doubleQuotes s).reverse) := by
        rw [List.reverse_cons]
        exact feedAll_doubleQuotes ['"'] s
      rw [text, Token.text_ofText, feedAll_append, opened, List.reverse_append]
      rfl
    · cases next with
      | none => simp [State.Finishes, finish]
      | some c => simp_all [State.Finishes, feed]

/-- A quoted lexeme starts with a quote. -/
theorem head?_of_isCompleteBefore (h : (quoted t).IsCompleteBefore next) :
    t.head? = some '"' := by
  obtain ⟨⟨s, rfl⟩, -⟩ := isCompleteBefore_quoted.1 h
  rfl

end Lexeme

namespace Formula

/-- Texts survive the way through formulas. Behind any marker, the operand that is made of a text is
read back as this one operand, and its value and what a cell shows of it are the text. What a cell
shows, be it nothing, is what is shown of the operand that is made of the cell. -/
theorem scan_ofText :
    (∀ (marker : Char) (s : Text),
      scan marker (marker :: (Token.ofText s).text) = .ok [Token.ofText s] ∧
        (Token.ofText s).textValue = s ∧ (Token.ofText s).toCell = some s) ∧
    ∀ c : Cell, (Token.ofCell c).toCell = c := by
  refine ⟨fun marker s => ⟨?_, Token.textValue_ofText s, ?_⟩, Token.toCell_ofCell⟩
  · have lexemes : Lexeme.ofText (Token.ofText s).text = [.quoted (Token.ofText s).text] := by
      have complete : (Lexeme.quoted (Token.ofText s).text).IsCompleteBefore none :=
        Lexeme.isCompleteBefore_quoted.2 ⟨⟨s, rfl⟩, nofun⟩
      exact Lexeme.ofText_eq_iff.2 ⟨by simp [Lexeme.text], complete, trivial⟩
    refine (scan_formula marker _).2 ⟨{ previous := some (Token.ofText s) }, ?_, rfl⟩
    rw [lexemes]
    exact .cons rfl (.nil _)
  · rw [Token.toCell, if_neg (by simp [Token.ofText]), Token.textValue_ofText]

/-- Quotes at both ends of a text, in a row and between blanks. -/
example : scan '=' "=\"\"\"a \"\"\"\" b\"\"\"" = .ok [Token.ofText "\"a \"\" b\""] := by
  decide +kernel

end Formula

end JoinSheet
