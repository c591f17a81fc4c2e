import JoinSheet.Proofs.Evaluation.Arguments
import JoinSheet.Proofs.Formula.Language

/-!
# Groups of a formula

Whether tokens are balanced can be told by counting their parentheses. In a formula there is only one
way to close a group with balanced tokens inside, and that is the one the search for its end finds.
The inside of a call is separated into arguments at its commas outside of inner groups, and nowhere
else.

## Main definitions

* `Token.Matched` — tokens whose parentheses match, by their numbers.
* `Cut.Closes` — a parenthesis that closes a group with balanced tokens inside.
* `outerSeparators` — the places of the separators outside of inner groups.
* `Splits` — tokens cut at these places.

## Main statements

* `Cut.Closes.unique` — at most one parenthesis closes a group.
* `Formula.Nested.exists_closer` — every group of nested tokens is closed.
* `Formula.splits_splitArgumentsFrom` — the arguments of a call are its inside, cut at its separators.
* `Formula.scan_groups` — all of this for formulas.
-/

namespace JoinSheet

/-! ## Counting parentheses -/

namespace Token

/-- As many parentheses close as open, and from the start up to any place at most as many. -/
structure Matched (ts : List Token) : Prop where
  le : ∀ k, (ts.take k).countP isClosing ≤ (ts.take k).countP isOpening
  eq : ts.countP isClosing = ts.countP isOpening

namespace Matched

variable {xs ys : List Token} {t opener closer : Token}

theorem nil : Matched [] := ⟨by simp, rfl⟩

theorem append (hx : Matched xs) (hy : Matched ys) : Matched (xs ++ ys) where
  le k := by
    rw [List.take_append, List.countP_append, List.countP_append]
    have front := hx.le k
    have back := hy.le (k - xs.length)
    omega
  eq := by rw [List.countP_append, List.countP_append, hx.eq, hy.eq]

theorem token (notOpening : ¬t.isOpening) (notClosing : ¬t.isClosing) : Matched [t] where
  le k := by cases k <;> simp [notClosing]
  eq := by simp [notOpening, notClosing]

theorem group (opens : opener.isOpening) (closes : closer.isClosing) (inside : Matched xs) :
    Matched (opener :: (xs ++ [closer])) where
  le k := by
    cases k with
    | zero => simp
    | succ k =>
      have notClosing := not_isClosing_of_isOpening opens
      have front := inside.le k
      have last : ([closer].take (k - xs.length)).countP isClosing ≤ 1 :=
        Nat.le_trans List.countP_le_length (List.length_take_le' ..)
      rw [List.take_succ_cons, List.countP_cons_of_neg notClosing, List.countP_cons_of_pos opens,
        List.take_append, List.countP_append, List.countP_append]
      omega
  eq := by
    have notClosing := not_isClosing_of_isOpening opens
    have notOpening : ¬closer.isOpening := fun h => not_isClosing_of_isOpening h closes
    simp [notClosing, opens, closes, notOpening, inside.eq]

end Matched

end Token

open Token (Matched)

theorem Formula.Nested.matched {ts : List Token} (h : Nested ts) : Matched ts := by
  induction h with
  | nil => exact .nil
  | @token t ts notOpening notClosing _ ih => exact (Matched.token notOpening notClosing).append ih
  | @group opener closer inside ts opens closes _ _ _ _ ihInside ihRest =>
    have whole := (Matched.group opens closes ihInside).append ihRest
    rwa [List.cons_append, List.append_assoc, List.singleton_append] at whole

theorem Formula.Nested.balanced {ts : List Token} (h : Nested ts) : Balanced (fun _ => True) ts := by
  induction h with
  | nil => exact .nil
  | token notOpening notClosing _ ih => exact .token trivial notOpening notClosing ih
  | group opens closes isGroup same _ _ ihInside ihRest =>
    refine .group trivial opens closes ?_ ihInside ihRest
    rw [same]
    obtain kind | kind := isGroup <;> simp [kind]

/-! ## The end of a group -/

/-- The token of a cut is a parenthesis that closes the group which `tokens` follow the opening one
of: what stands before it is balanced. -/
structure Cut.Closes (c : Cut) (tokens : List Token) : Prop where
  whole : c.whole = tokens
  closes : c.token.isClosing
  matched : Matched c.before

/-- Balanced tokens before a closing parenthesis are not the start of longer ones. -/
theorem Token.Matched.length_le {xs ys rest rest' : List Token} {closer closer' : Token}
    (hx : Matched xs) (hy : Matched ys) (closes : closer.isClosing)
    (same : xs ++ closer :: rest = ys ++ closer' :: rest') : ys.length ≤ xs.length := by
  by_contra longer
  have notOpening : ¬closer.isOpening := fun h => not_isClosing_of_isOpening h closes
  have start : ys.take (xs.length + 1) = xs ++ [closer] := by
    have ahead : (ys ++ closer' :: rest').take (xs.length + 1) = ys.take (xs.length + 1) :=
      List.take_append_of_le_length (by omega)
    rw [← ahead, ← same, List.take_append, List.take_of_length_le (Nat.le_succ _)]
    simp
  -- These tokens close one group more than they open.
  have tooMany := hy.le (xs.length + 1)
  rw [start, List.countP_append, List.countP_append, hx.eq, List.countP_singleton,
    List.countP_singleton, if_pos closes, if_neg notOpening] at tooMany
  omega

/-- At most one parenthesis closes a group. -/
theorem Cut.Closes.unique {tokens : List Token} {c d : Cut} (hc : c.Closes tokens)
    (hd : d.Closes tokens) : c = d := by
  obtain ⟨before, token, after⟩ := c
  obtain ⟨before', token', after'⟩ := d
  have same : before ++ token :: after = before' ++ token' :: after' := hc.whole.trans hd.whole.symm
  have long : before'.length ≤ before.length := hc.matched.length_le hd.matched hc.closes same
  have long' : before.length ≤ before'.length :=
    hd.matched.length_le hc.matched hd.closes same.symm
  obtain ⟨rfl, rest⟩ := List.append_inj same (by omega)
  cases rest
  rfl

namespace Formula

variable {ts before after inside : List Token} {opener : Token}

/-- Every group of nested tokens is closed, and its inside is nested. -/
theorem Nested.exists_closer (h : Nested ts) (split : ts = before ++ opener :: after)
    (opens : opener.isOpening) :
    ∃ inside closer rest, after = inside ++ closer :: rest ∧ closer.isClosing ∧ Nested inside := by
  induction h generalizing before after with
  | nil => simp at split
  | @token t ts notOpening _ _ ih =>
    cases before with
    | nil =>
      obtain ⟨rfl, -⟩ := List.cons.inj split
      exact absurd opens notOpening
    | cons _ before =>
      obtain ⟨-, split⟩ := List.cons.inj split
      exact ih split
  | @group first closer inside ts _ closes _ _ nested _ ihInside ihRest =>
    cases before with
    | nil =>
      obtain ⟨-, rfl⟩ := List.cons.inj split
      exact ⟨inside, closer, ts, rfl, closes, nested⟩
    | cons _ before =>
      rw [List.cons_append] at split
      obtain ⟨-, split⟩ := List.cons.inj split
      -- The parenthesis that closes this group opens none.
      have other {rest : List Token} : closer :: rest ≠ opener :: after := fun h =>
        Token.not_isClosing_of_isOpening opens ((List.cons.inj h).1 ▸ closes)
      obtain ⟨more, rfl, later⟩ | ⟨more, rfl, found⟩ := List.append_eq_append_iff.1 split
      · cases more with
        | nil => exact absurd later other
        | cons _ more => exact ihRest (List.cons.inj later).2
      · cases more with
        | nil => exact absurd found.symm other
        | cons _ more =>
          obtain ⟨rfl, rfl⟩ := List.cons.inj found
          obtain ⟨inside, closer', rest, rfl, closes', nested⟩ := ihInside rfl
          exact ⟨inside, closer', rest ++ closer :: ts, by simp, closes', nested⟩

end Formula

/-! ## Separators -/

/-- Whether a separator stands at a place and all groups that open before it are closed there. -/
def separatesAt (ts : List Token) (k : Nat) : Bool :=
  ts[k]?.any (·.kind = .separator) &&
    (ts.take k).countP Token.isClosing = (ts.take k).countP Token.isOpening

/-- The places of the separators outside of inner groups. -/
def outerSeparators (ts : List Token) : List Nat := (List.range ts.length).filter (separatesAt ts)

section Separators

variable {xs ys : List Token} {t opener closer : Token}

theorem outerSeparators_append (hx : Matched xs) (ys : List Token) : outerSeparators (xs ++ ys) =
    outerSeparators xs ++ (outerSeparators ys).map (xs.length + ·) := by
  have front : ∀ k ∈ List.range xs.length, separatesAt (xs ++ ys) k = separatesAt xs k := by
    intro k within
    rw [List.mem_range] at within
    rw [separatesAt, List.getElem?_append_left within,
      List.take_append_of_le_length (Nat.le_of_lt within)]
    rfl
  have back (k : Nat) : separatesAt (xs ++ ys) (xs.length + k) = separatesAt ys k := by
    simp [separatesAt, List.getElem?_append_right, List.take_length_add_append, hx.eq]
  rw [outerSeparators, List.length_append, List.range_add, List.filter_append,
    List.filter_congr front, List.filter_map]
  simp only [Function.comp_def, back]
  rfl

theorem outerSeparators_token (other : t.kind ≠ .separator) : outerSeparators [t] = [] := by
  simp [outerSeparators, separatesAt, List.range_succ, other]

theorem outerSeparators_comma : outerSeparators [Token.comma] = [0] := by decide

/-- Within a group no separator is outside of it. -/
theorem outerSeparators_group (opens : opener.isOpening) (group : opener.kind ≠ .separator)
    (inside : Matched xs) : outerSeparators (opener :: (xs ++ [closer])) = [] := by
  rw [outerSeparators, List.filter_eq_nil_iff]
  intro k within separates
  rw [separatesAt, Bool.and_eq_true, decide_eq_true_eq] at separates
  cases k with
  | zero => simp [group] at separates
  | succ k =>
    rw [List.mem_range, List.length_cons, List.length_append, List.length_singleton] at within
    have short : k ≤ xs.length := by omega
    have started := separates.2
    rw [List.take_succ_cons, List.take_append_of_le_length short,
      List.countP_cons_of_neg (Token.not_isClosing_of_isOpening opens),
      List.countP_cons_of_pos opens] at started
    have fewer := inside.le k
    omega

end Separators

/-! ## Arguments -/

/-- Tokens cut at their outer separators: the parts are balanced, none of them has an outer separator,
and with a comma between each two of them they are the tokens. -/
structure Splits (parts : List (List Token)) (ts : List Token) : Prop where
  count : parts.length = (outerSeparators ts).length + 1
  whole : ∀ part ∈ parts, Matched part ∧ outerSeparators part = []
  joined : [Token.comma].intercalate parts = ts

namespace Splits

variable {parts : List (List Token)} {xs ts : List Token}

theorem nil : Splits [[]] [] := ⟨rfl, by simp [Matched.nil, outerSeparators], rfl⟩

theorem comma (h : Splits parts ts) : Splits ([] :: parts) (Token.comma :: ts) where
  count := by
    have split := outerSeparators_append (.token (t := Token.comma) (by decide) (by decide)) ts
    rw [List.singleton_append] at split
    rw [split, outerSeparators_comma, List.length_cons, h.count]
    simp
  whole := List.forall_mem_cons.2 ⟨⟨.nil, rfl⟩, h.whole⟩
  joined := by
    have some : parts ≠ [] := by
      rintro rfl
      exact absurd h.count (by simp)
    obtain ⟨part, parts, rfl⟩ := List.exists_cons_of_ne_nil some
    rw [List.intercalate_cons_cons, h.joined]
    rfl

theorem extendFirst (h : Splits parts ts) (matched : Matched xs) (plain : outerSeparators xs = []) :
    Splits (extendFirst xs parts) (xs ++ ts) := by
  cases parts with
  | nil => exact absurd h.count (by simp)
  | cons part parts =>
    obtain ⟨first, others⟩ := List.forall_mem_cons.1 h.whole
    have whole : Matched (xs ++ part) ∧ outerSeparators (xs ++ part) = [] :=
      ⟨matched.append first.1, by rw [outerSeparators_append matched, plain, first.2]; rfl⟩
    refine ⟨?_, List.forall_mem_cons.2 ⟨whole, others⟩, ?_⟩
    · rw [outerSeparators_append matched, plain, List.nil_append, List.length_map]
      exact h.count
    · have joined : [Token.comma].intercalate ((xs ++ part) :: parts) = xs ++ ts := by
        rw [intercalate_cons, List.append_assoc, ← intercalate_cons, h.joined]
      exact joined

end Splits

/-! ## Formulas -/

namespace Formula

/-- The arguments of a call are its inside, cut at its separators. -/
theorem splits_splitArgumentsFrom {ts : List Token} (nested : Nested ts)
    (commas : ∀ t ∈ ts, t.kind = .separator → t = Token.comma) :
    Splits (splitArgumentsFrom 0 ts) ts := by
  induction nested with
  | nil => exact .nil
  | @token t ts notOpening notClosing _ ih =>
    obtain ⟨first, others⟩ := List.forall_mem_cons.1 commas
    by_cases separates : t.kind = .separator
    · obtain rfl := first separates
      rw [splitArgumentsFrom_comma]
      exact (ih others).comma
    · have next : (if t.isOpening then 0 + 1 else if t.isClosing then 0 - 1 else 0) = 0 := by
        simp [notOpening, notClosing]
      rw [splitArgumentsFrom_cons ts next fun _ => separates]
      exact (ih others).extendFirst (.token notOpening notClosing) (outerSeparators_token separates)
  | @group opener closer inside ts opens closes isGroup same nested _ _ ihRest =>
    have others : ∀ t ∈ ts, t.kind = .separator → t = Token.comma := fun t mem =>
      commas t (by simp [mem])
    have noSeparator : opener.kind ≠ .separator := by
      obtain kind | kind := isGroup <;> simp [kind]
    have whole : Balanced (fun t => t.kind ≠ .separator) (opener :: (inside ++ [closer])) :=
      .group noSeparator opens closes (same ▸ noSeparator) nested.balanced .nil
    have plain : outerSeparators (opener :: (inside ++ [closer])) = [] :=
      outerSeparators_group opens noSeparator nested.matched
    have split : splitArgumentsFrom 0 (opener :: (inside ++ [closer]) ++ ts) = _ :=
      splitArgumentsFrom_append whole (fun _ _ => id) ts
    have cut := (ihRest others).extendFirst (.group opens closes nested.matched) plain
    rwa [← split, List.cons_append, List.append_assoc, List.singleton_append] at cut

variable {marker : Char} {text : Text} {tokens before after : List Token} {opener : Token}

/-- The tokens of a text are nested. -/
theorem nested_of_scan (h : scan marker text = .ok tokens) : Nested tokens := by
  by_cases formula : text.head? = some marker
  · obtain ⟨body, rfl⟩ := List.head?_eq_some_iff.1 formula
    obtain ⟨s, reads, closed⟩ := (scan_formula marker body).1 h
    have opens := reads.opens (.nested .nil)
    rw [closed] at opens
    cases opens with
    | nested nested => exact nested
  · rw [scan_literal formula] at h
    cases h
    have role : (Token.ofLiteral text).role = .number ∨ (Token.ofLiteral text).role = .text := by
      unfold Token.ofLiteral
      split <;> simp
    refine .token ?_ ?_ .nil <;> obtain role | role := role <;>
      simp [Token.isOpening, Token.isClosing, role]

/-- Nested tokens still are without the blanks between them. -/
theorem Nested.filter {ts : List Token} (h : Nested ts) : Nested (ts.filter Token.isPrinted) := by
  induction h with
  | nil => exact .nil
  | token notOpening notClosing _ ih =>
    rw [List.filter_cons]
    split
    · exact .token notOpening notClosing ih
    · exact ih
  | @group opener closer inside ts opens closes group same _ _ ihInside ihRest =>
    have printed : opener.isPrinted ∧ closer.isPrinted := by
      unfold Token.isPrinted
      rw [same]
      obtain kind | kind := group <;> simp [kind]
    rw [List.filter_cons_of_pos printed.1, List.filter_append, List.filter_cons_of_pos printed.2]
    exact .group opens closes group same ihInside ihRest

theorem eq_comma_of_tokenOf {s s' : Surroundings} {l : Lexeme} {t : Token}
    (h : tokenOf s l = .ok (t, s')) (separates : t.kind = .separator) : t = Token.comma := by
  cases l <;> simp only [tokenOf] at h
  case comma =>
    cases h
    split at separates
    next call => rw [if_pos call]
    next => cases separates
  case operator text =>
    cases h
    unfold operatorToken at separates
    repeat' split at separates
    all_goals simp at separates
  case closer =>
    split at h
    · cases h
    · cases h
      simp only at separates
      split at separates <;> simp at separates
  all_goals cases h
  case opener =>
    simp only at separates
    split at separates <;> simp at separates
  all_goals simp at separates

theorem eq_comma_of_scan (h : scan marker text = .ok tokens) {t : Token} (mem : t ∈ tokens)
    (separates : t.kind = .separator) : t = Token.comma := by
  obtain rfl | ⟨before, l, after, read⟩ := mem_of_scan h mem
  · unfold Token.ofLiteral at separates
    split at separates <;> cases separates
  · exact eq_comma_of_tokenOf read separates

/-- In a formula without its blanks the search for the end of a group finds a parenthesis, which is
the only one that closes the group with balanced tokens inside. In a call, nothing inside is no
argument, and anything else is cut at its outer separators. -/
theorem scan_groups (h : scan marker text = .ok tokens)
    (split : tokens.filter Token.isPrinted = before ++ opener :: after) (opens : opener.isOpening) :
    ∃ cut : Cut, Cut.closing? 0 after = some cut ∧ (∀ c : Cut, c.Closes after ↔ c = cut) ∧
      (opener.kind = .call →
        (cut.before = [] → splitArguments cut.before = []) ∧
        (cut.before ≠ [] → Splits (splitArguments cut.before) cut.before)) := by
  obtain ⟨inside, closer, rest, rfl, closes, nested⟩ :=
    (nested_of_scan h).filter.exists_closer split opens
  have found : (⟨inside, closer, rest⟩ : Cut).Closes (inside ++ closer :: rest) :=
    ⟨rfl, closes, nested.matched⟩
  have commas : ∀ t ∈ inside, t.kind = .separator → t = Token.comma := by
    intro t mem
    have printed : t ∈ tokens.filter Token.isPrinted := by simp [split, mem]
    exact eq_comma_of_scan h (List.mem_of_mem_filter printed)
  refine ⟨⟨inside, closer, rest⟩, Cut.closing?_of_nested nested.balanced closes rest, ?_, ?_⟩
  · exact fun c => ⟨fun other => other.unique found, fun same => same ▸ found⟩
  · refine fun _ => ⟨fun nothing => if_pos nothing, fun written => ?_⟩
    rw [splitArguments, if_neg written]
    exact splits_splitArgumentsFrom nested commas

/-- A call with a call, a quoted parenthesis and a group among its arguments. -/
theorem scan_groups_call :
    let operand (t : Text) : Token := ⟨.operand, .range, t, none⟩
    let quoted : Token := ⟨.operand, .text, "\"(,\"", none⟩
    let inner : List Token := [⟨.call, .opening, "G(", none⟩, operand "B1", Token.comma,
      operand "C1", ⟨.call, .closing, ")", none⟩]
    let group : List Token := [⟨.paren, .opening, "(", none⟩, operand "D1",
      ⟨.paren, .closing, ")", none⟩]
    let inside := operand "A1" :: Token.comma :: (inner ++ Token.comma :: quoted :: Token.comma :: group)
    let closer : Token := ⟨.call, .closing, ")", none⟩
    ∃ tokens, scan '=' "=F(A1, G(B1,C1),\"(,\",(D1))" = .ok tokens ∧
      tokens.filter Token.isPrinted =
        [] ++ ⟨.call, .opening, "F(", none⟩ :: (inside ++ [closer]) ∧
      Cut.closing? 0 (inside ++ [closer]) = some ⟨inside, closer, []⟩ ∧
      splitArguments inside = [[operand "A1"], inner, [quoted], group] ∧
      Splits (splitArguments inside) inside := by
  intro operand quoted inner group inside closer
  have found : Cut.closing? 0 (inside ++ [closer]) = some ⟨inside, closer, []⟩ := by decide +kernel
  have scanned : ∃ tokens, scan '=' "=F(A1, G(B1,C1),\"(,\",(D1))" = .ok tokens ∧
      tokens.filter Token.isPrinted =
        [] ++ ⟨.call, .opening, "F(", none⟩ :: (inside ++ [closer]) := ⟨_, rfl, by decide +kernel⟩
  obtain ⟨tokens, h, split⟩ := scanned
  obtain ⟨cut, closing, -, call⟩ := scan_groups h split rfl
  cases found.symm.trans closing
  exact ⟨tokens, h, split, found, by decide +kernel, (call rfl).2 (by decide +kernel)⟩

end Formula

end JoinSheet
