import JoinSheet.Proofs.Formula.Language
import JoinSheet.Proofs.Formula.Naming

/-!
# Words in place of a word

Among the arguments of a call, a reference can be exchanged for several words with commas between
them. The words end before the commas, and the commas separate arguments, so the tokens of the new
formula are read back from its text.

## Main definitions

* `Lexeme.listed` — words with commas between them.
* `Lexeme.IsPlainWord` — words that end before every delimiter.

## Main statements

* `Formula.Reads.opened_of_balanced` — tokens whose parentheses match close what they open.
* `Formula.scan_render_words` — the exchanged formula is read back.
-/

namespace JoinSheet

open Lexeme

namespace Lexeme

variable {ks ls ls' : List Lexeme} {w : Text} {ws : List Text}

/-- Words with commas between them. -/
def listed (ws : List Text) : List Lexeme := [comma].intercalate (ws.map fun w => [word w])

theorem listed_singleton (w : Text) : listed [w] = [word w] := by simp [listed]

theorem listed_cons_cons (w v : Text) (ws : List Text) :
    listed (w :: v :: ws) = word w :: comma :: listed (v :: ws) := by
  rw [listed, List.map_cons, List.map_cons, List.intercalate_cons_cons]
  rfl

/-- A word that no character can go on as the sign of an exponent. -/
structure IsPlainWord (w : Text) : Prop where
  isWord : IsWord w
  noExponent : isExponentStem w.reverse = false

theorem IsPlainWord.isCompleteBefore (h : IsPlainWord w) {next : Option Char}
    (ends : ∀ c ∈ next, isDelimiter c ∧ c ≠ '(') : (word w).IsCompleteBefore next := by
  refine isCompleteBefore_word.2 ⟨h.isWord, fun c first => ?_⟩
  obtain ⟨delimits, noCall⟩ := ends c first
  rw [continuesWord_eq_not_isDelimiter h.noExponent]
  exact ⟨by simp [delimits], noCall⟩

theorem isCompleteBefore_comma (next : Option Char) : comma.IsCompleteBefore next :=
  .inl ⟨rfl, rfl⟩

/-- What stands before lexemes is separated from any others that start with the same character. -/
theorem Separated.append (h : Separated (ks ++ ls)) (later : Separated ls')
    (same : (spell ls').head? = (spell ls).head?) : Separated (ks ++ ls') := by
  induction ks with
  | nil => exact later
  | cons k ks ih =>
    obtain ⟨complete, rest⟩ := h
    refine ⟨?_, ih rest⟩
    have start (ms : List Lexeme) : (spell (ks ++ ms)).head? =
        (spell ks).head?.or (spell ms).head? := by
      rw [spell_append, List.head?_append]
    exact (start ls').symm ▸ same ▸ start ls ▸ complete

theorem Separated.of_append (h : Separated (ks ++ ls)) : Separated ls := by
  induction ks with
  | nil => exact h
  | cons k ks ih => exact ih h.2

theorem separated_listed (words : ∀ w ∈ ws, IsPlainWord w)
    (ends : ∀ c ∈ (spell ls).head?, isDelimiter c ∧ c ≠ '(') (later : Separated ls) :
    Separated (listed ws ++ ls) := by
  induction ws with
  | nil => exact later
  | cons w ws ih =>
    obtain ⟨first, others⟩ := List.forall_mem_cons.1 words
    cases ws with
    | nil =>
      rw [listed_singleton]
      exact ⟨first.isCompleteBefore ends, later⟩
    | cons v ws =>
      rw [listed_cons_cons]
      refine ⟨first.isCompleteBefore ?_, isCompleteBefore_comma _, ih others⟩
      rintro c ⟨⟩
      exact ⟨rfl, by decide⟩

end Lexeme

namespace Formula

variable {s s' u : Surroundings} {ls : List Lexeme} {ts us : List Token} {t : Token}
  {w v : Text} {ws : List Text}

/-! ## Parts of a formula -/

theorem Reads.exists_append (h : Reads s ls (ts ++ us) s') : ∃ ks ms mid, ls = ks ++ ms ∧
    Reads s ks ts mid ∧ Reads mid ms us s' := by
  induction ts generalizing s ls with
  | nil => exact ⟨[], ls, s, rfl, .nil s, h⟩
  | cons t ts ih =>
    cases h with
    | @cons _ next _ l ls _ _ first rest =>
      obtain ⟨ks, ms, mid, rfl, before, after⟩ := ih rest
      exact ⟨l :: ks, ms, mid, rfl, .cons first before, after⟩

/-- In like surroundings the same is read. -/
theorem Reads.of_alike (h : Reads s ls ts s') (alike : s.Alike u) :
    ∃ u', Reads u ls ts u' ∧ s'.Alike u' := by
  induction h generalizing u with
  | nil s => exact ⟨u, .nil u, alike⟩
  | cons first _ ih =>
    obtain ⟨mid, first', now⟩ := tokenOf_of_alike alike first
    obtain ⟨u', rest', later⟩ := ih now
    exact ⟨u', .cons first' rest', later⟩

theorem Reads.not_bracket_of_blank (h : Reads s ls ts s') :
    ∀ t ∈ ts, t.kind = .blank → ¬t.isOpening ∧ ¬t.isClosing := by
  have groups (isCall : Bool) : groupKind isCall ≠ .blank := by cases isCall <;> exact nofun
  induction h with
  | nil => exact nofun
  | cons first _ ih =>
    refine List.forall_mem_cons.2 ⟨fun blank => ?_, ih⟩
    obtain ⟨notOpening, notClosing, -⟩ | ⟨-, isCall, kind, -⟩ | ⟨-, isCall, kind, -⟩ :=
      opened_tokenOf first
    · exact ⟨notOpening, notClosing⟩
    · exact absurd (kind.symm.trans blank) (groups isCall)
    · exact absurd (kind.symm.trans blank) (groups isCall)

/-- Tokens whose parentheses match close what they open. -/
theorem Reads.opened_of_balanced {q : Token → Prop} (h : Reads s ls ts s') (nested : Balanced q ts) :
    s'.opened = s.opened := by
  induction nested generalizing s ls s' with
  | nil =>
    cases h
    rfl
  | token _ notOpening notClosing _ ih =>
    cases h with
    | cons first rest =>
      obtain ⟨-, -, same⟩ | ⟨opens, -⟩ | ⟨closes, -⟩ := opened_tokenOf first
      · rw [ih rest, same]
      · exact absurd opens notOpening
      · exact absurd closes notClosing
  | @group q opener closer inside ts _ opens closes _ _ _ ihInside ihRest =>
    cases h with
    | cons first more =>
      obtain ⟨ks, ms, mid, rfl, within, after⟩ := more.exists_append
      cases after with
      | cons last rest =>
        have inner := ihInside within
        rw [ihRest rest]
        obtain ⟨notOpening, -⟩ | ⟨-, isCall, -, more⟩ | ⟨closing, -⟩ := opened_tokenOf first
        · exact absurd opens notOpening
        · obtain ⟨-, notClosing, -⟩ | ⟨opening, -⟩ | ⟨-, isCall', -, fewer⟩ := opened_tokenOf last
          · exact absurd closes notClosing
          · exact absurd closes (Token.not_isClosing_of_isOpening opening)
          · rw [inner, more] at fewer
            exact (List.cons.inj fewer).2.symm
        · exact absurd closing (Token.not_isClosing_of_isOpening opens)

theorem not_bracket_of_blank {marker : Char} {text : Text} (h : scan marker text = .ok ts) :
    ∀ t ∈ ts, t.kind = .blank → ¬t.isOpening ∧ ¬t.isClosing := by
  by_cases formula : text.head? = some marker
  · obtain ⟨body, rfl⟩ := List.head?_eq_some_iff.1 formula
    obtain ⟨_, reads, -⟩ := (scan_formula marker body).1 h
    exact reads.not_bracket_of_blank
  · rw [scan_literal formula] at h
    cases h
    refine List.forall_mem_singleton.2 fun blank => ?_
    unfold Token.ofLiteral at blank
    split at blank <;> cases blank

/-! ## Words with commas between them -/

/-- In a call, words with commas between them are arguments. -/
theorem Reads.listed (call : s.opened.head? = some true) (w : Text) (ws : List Text)
    (rest : Reads { s with previous := some (Token.operand v) } ls us s') :
    ∃ u, Reads s (Lexeme.listed (w :: ws) ++ ls)
      ([Token.comma].intercalate ((w :: ws).map fun w => [Token.operand w]) ++ us) u ∧
        s'.Alike u := by
  induction ws generalizing s w with
  | nil =>
    have alike : Surroundings.Alike { s with previous := some (Token.operand v) }
        { s with previous := some (Token.operand w) } := ⟨rfl, by simp [endsValue]⟩
    obtain ⟨u, later, same⟩ := rest.of_alike alike
    rw [listed_singleton, List.map_singleton, List.intercalate_singleton]
    exact ⟨u, .cons rfl later, same⟩
  | cons w' ws ih =>
    obtain ⟨u, later, same⟩ := ih (s := { s with previous := some Token.comma }) call w' rest
    have comma : tokenOf { s with previous := some (Token.operand w) } .comma =
        .ok (Token.comma, { s with previous := some Token.comma }) := by
      simp only [tokenOf, call, if_true]
    rw [listed_cons_cons, List.map_cons, List.map_cons, List.intercalate_cons_cons]
    exact ⟨u, .cons rfl (.cons comma later), same⟩

theorem head?_listed (w : Text) (ws : List Text) (written : w ≠ []) (ls : List Lexeme) :
    (Lexeme.spell (Lexeme.listed (w :: ws) ++ ls)).head? = w.head? := by
  have first : ∃ rest, Lexeme.listed (w :: ws) ++ ls = .word w :: rest := by
    cases ws with
    | nil => exact ⟨ls, by rw [listed_singleton, List.singleton_append]⟩
    | cons v ws => exact ⟨_, by rw [listed_cons_cons, List.cons_append]⟩
  obtain ⟨rest, first⟩ := first
  rw [first, Lexeme.spell_cons, Lexeme.text, List.head?_append_of_ne_nil _ written]

/-- A reference among the arguments of a call is exchanged for several words. The formula that is
written then is read back. -/
theorem scan_render_words {marker : Char} {text : Text} {opener : Token} {inside right : List Token}
    {q : Token → Prop} (h : scan marker text = .ok (opener :: (inside ++ t :: right)))
    (opens : opener.isOpening) (isCall : opener.kind = .call) (nested : Balanced q inside)
    (range : t.isRange)
    (words : ∀ v ∈ w :: ws, IsPlainWord v) (start : w.head? = t.text.head?) :
    let tokens := opener :: (inside ++
      ([Token.comma].intercalate ((w :: ws).map fun w => [Token.operand w]) ++ right))
    scan marker (Token.render marker tokens) = .ok tokens := by
  intro tokens
  have formula : text.head? = some marker := by
    by_contra plain
    have alone := congrArg (fun r => r.toOption.map List.length) ((scan_literal plain).symm.trans h)
    simp [Except.toOption] at alone
  obtain ⟨body, rfl⟩ := List.head?_eq_some_iff.1 formula
  obtain ⟨s, reads, closed⟩ := (scan_formula marker body).1 h
  have separated := (ofText_eq_iff.1 (Eq.refl (ofText body))).2
  generalize ofText body = lexemes at reads separated
  cases reads with
  | @cons _ next _ l _ _ _ first more =>
    obtain ⟨ks, ms, mid, rfl, within, after⟩ := more.exists_append
    cases after with
    | @cons _ _ _ k ls _ _ one rest =>
      obtain ⟨complete, separatedRest⟩ : Separated (k :: ls) := Separated.of_append separated.2
      obtain ⟨v, rfl, rfl, rfl⟩ := eq_word_of_isRange one complete range
      have call : mid.opened.head? = some true := by
        rw [within.opened_of_balanced nested]
        obtain ⟨notOpening, -⟩ | ⟨-, kind, same, more⟩ | ⟨closes, -⟩ := opened_tokenOf first
        · exact absurd opens notOpening
        · cases kind with
          | true => rw [more, List.head?_cons]
          | false => cases isCall.symm.trans same
        · exact absurd closes (Token.not_isClosing_of_isOpening opens)
      obtain ⟨u, reads', same⟩ := Reads.listed call w ws rest
      have ends : ∀ c ∈ (Lexeme.spell ls).head?, isDelimiter c ∧ c ≠ '(' := fun c hc =>
        ((isCompleteBefore_word.1 complete).2 c hc).imp_left isDelimiter_of_not_continuesWord
      have separated' : Separated (l :: ks ++ (Lexeme.listed (w :: ws) ++ ls)) := by
        have whole : Separated ((l :: ks) ++ .word v :: ls) := separated
        refine whole.append (separated_listed words ends separatedRest) ?_
        have written := (words w List.mem_cons_self).isWord.ne_nil
        have written' := (isCompleteBefore_word.1 complete).1.ne_nil
        rw [Token.text_operand] at start
        rw [head?_listed w ws written, start, Lexeme.spell_cons, Lexeme.text,
          List.head?_append_of_ne_nil _ written']
      have whole : Reads {} (l :: ks ++ (Lexeme.listed (w :: ws) ++ ls)) tokens u :=
        .cons first (reads_append.2 ⟨mid, inside, _, within, reads', rfl⟩)
      rw [render_of_kind_ne_literal whole.kind_ne_literal, whole.spell]
      refine (scan_formula marker _).2 ⟨u, ?_, same.opened ▸ closed⟩
      rwa [ofText_eq_iff.2 ⟨rfl, separated'⟩]

end Formula

end JoinSheet
