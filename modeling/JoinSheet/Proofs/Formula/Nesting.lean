import JoinSheet.Formula.Grouping

/-!
# Nesting

Tokens whose parentheses match can be passed over as a whole: a search at the top level, a search
for a closing parenthesis and the separation of arguments all find in `xs ++ ys` what they find in
`ys`, if the parentheses of `xs` match and none of its tokens at the top level is looked for.

## Main definitions

* `Balanced` — tokens whose parentheses match, with a predicate on those at the top level.
* `Cut.behind` — a cut with more tokens in front.
* `Cut.Skips` — tokens in which a search at the top level finds nothing.
-/

namespace JoinSheet

/-- Tokens whose parentheses match and whose tokens at the top level, closing parentheses apart,
satisfy `q`. -/
inductive Balanced : (Token → Prop) → List Token → Prop where
  | nil {q : Token → Prop} : Balanced q []
  | token {q : Token → Prop} {t : Token} {ts : List Token} (holds : q t)
      (notOpening : ¬ t.isOpening) (notClosing : ¬ t.isClosing) (rest : Balanced q ts) :
      Balanced q (t :: ts)
  | group {q : Token → Prop} {opener closer : Token} {inside ts : List Token} (holds : q opener)
      (opens : opener.isOpening) (closes : closer.isClosing) (noComma : closer.kind ≠ .separator)
      (nested : Balanced (fun _ => True) inside) (rest : Balanced q ts) :
      Balanced q (opener :: (inside ++ closer :: ts))

theorem Token.not_isClosing_of_isOpening {t : Token} (h : t.isOpening) : ¬ t.isClosing := by
  simp_all [isOpening, isClosing]

namespace Balanced

variable {q r : Token → Prop} {xs ys : List Token}

theorem append (hx : Balanced q xs) (hy : Balanced q ys) : Balanced q (xs ++ ys) := by
  induction hx with
  | nil => exact hy
  | token holds notOpening notClosing _ ih => exact token holds notOpening notClosing (ih hy)
  | group holds opens closes noComma nested _ _ ih =>
    rw [List.cons_append, List.append_assoc, List.cons_append]
    exact group holds opens closes noComma nested (ih hy)

theorem mono (hx : Balanced q xs) (weaker : ∀ t, q t → r t) : Balanced r xs := by
  induction hx with
  | nil => exact nil
  | token holds notOpening notClosing _ ih =>
    exact token (weaker _ holds) notOpening notClosing (ih weaker)
  | group holds opens closes noComma nested _ _ ih =>
    exact group (weaker _ holds) opens closes noComma nested (ih weaker)

end Balanced

/-! ## Searching -/

namespace Cut

/-- The cut with more tokens in front. -/
def behind (xs : List Token) (c : Cut) : Cut := { c with before := xs ++ c.before }

theorem map_behind_nil (found : Option Cut) : found.map (behind []) = found := by
  cases found <;> rfl

theorem map_cons (t : Token) (found : Option Cut) :
    found.map (cons t) = found.map (behind [t]) := rfl

theorem map_behind_map_behind (xs ys : List Token) (found : Option Cut) :
    (found.map (behind ys)).map (behind xs) = found.map (behind (xs ++ ys)) := by
  cases found <;> simp [behind]

variable {p : Token → List Token → Bool} {q : Token → Prop} {xs : List Token}

/-- Within an open group nothing is found, and at the top level only what `q` admits. -/
theorem firstFrom?_append (hx : Balanced q xs) {depth : Nat}
    (skips : depth = 0 → ∀ t rest, q t → p t rest = false) (ys : List Token) :
    firstFrom? p depth (xs ++ ys) = (firstFrom? p depth ys).map (behind xs) := by
  induction hx generalizing depth ys with
  | nil => exact (map_behind_nil _).symm
  | @token q t ts holds notOpening notClosing _ ih =>
    have missed : ¬ (depth = 0 ∧ p t (ts ++ ys) = true) := by
      rintro ⟨h, found⟩
      simp [skips h t _ holds] at found
    rw [List.cons_append, firstFrom?, if_neg notClosing, if_neg missed, if_neg notOpening,
      ih skips, map_cons, map_behind_map_behind, List.singleton_append]
  | @group q o c inside ts holds opens closes _ _ _ ihInside ihRest =>
    have missed : ¬ (depth = 0 ∧ p o (inside ++ c :: (ts ++ ys)) = true) := by
      rintro ⟨h, found⟩
      simp [skips h o _ holds] at found
    have inner : firstFrom? p (depth + 1) (inside ++ c :: (ts ++ ys)) =
        (firstFrom? p depth ys).map (behind (inside ++ c :: ts)) := by
      rw [ihInside (by simp), firstFrom?, if_pos closes, Nat.add_sub_cancel, ihRest skips, map_cons,
        map_behind_map_behind, map_behind_map_behind, List.append_assoc, List.singleton_append]
    rw [List.cons_append, List.append_assoc, List.cons_append, firstFrom?,
      if_neg (Token.not_isClosing_of_isOpening opens), if_neg missed, if_pos opens, inner, map_cons,
      map_behind_map_behind, List.singleton_append]

/-- A search at the top level finds nothing in these tokens, whatever comes after them. -/
def Skips (p : Token → List Token → Bool) (xs : List Token) : Prop :=
  ∀ ys, first? p (xs ++ ys) = (first? p ys).map (behind xs)

theorem skips_nil : Skips p [] := fun ys => (map_behind_nil (first? p ys)).symm

theorem Skips.append {ys : List Token} (hx : Skips p xs) (hy : Skips p ys) :
    Skips p (xs ++ ys) := by
  intro zs
  rw [List.append_assoc, hx, hy, map_behind_map_behind]

/-- A token at the top level that is not looked for. -/
theorem first?_cons_of_neg {t : Token} {rest : List Token} (notOpening : ¬ t.isOpening)
    (notClosing : ¬ t.isClosing) (missed : p t rest = false) :
    first? p (t :: rest) = (first? p rest).map (behind [t]) := by
  rw [first?, firstFrom?, if_neg notClosing, if_neg (by simp [missed]), if_neg notOpening]
  rfl

/-- What is looked for may depend on the tokens that follow. -/
theorem Skips.cons {t : Token} (notOpening : ¬ t.isOpening) (notClosing : ¬ t.isClosing)
    (missed : ∀ ys, p t (xs ++ ys) = false) (hx : Skips p xs) : Skips p (t :: xs) := by
  intro ys
  rw [List.cons_append, first?_cons_of_neg notOpening notClosing (missed ys), hx,
    map_behind_map_behind, List.singleton_append]

theorem Skips.eq_none (hx : Skips p xs) : first? p xs = none := by
  have := hx []
  rwa [List.append_nil] at this

/-- A search at the top level passes over tokens that it does not look for. -/
theorem skips_of_balanced (hx : Balanced q xs) (skips : ∀ t rest, q t → p t rest = false) :
    Skips p xs :=
  firstFrom?_append hx fun _ => skips

/-- A search at the top level stops at the first token that it looks for. -/
theorem first?_cons_of_pos {t : Token} {rest : List Token} (notClosing : ¬ t.isClosing)
    (found : p t rest) : first? p (t :: rest) = some ⟨[], t, rest⟩ := by
  rw [first?, firstFrom?, if_neg notClosing, if_pos ⟨rfl, found⟩]

theorem Skips.first?_append (hx : Skips p xs) {t : Token} {rest : List Token}
    (notClosing : ¬ t.isClosing) (found : p t rest) :
    first? p (xs ++ t :: rest) = some ⟨xs, t, rest⟩ := by
  rw [hx, first?_cons_of_pos notClosing found, Option.map_some, behind, List.append_nil]

theorem closing?_append (hx : Balanced q xs) (depth : Nat) (ys : List Token) :
    closing? depth (xs ++ ys) = (closing? depth ys).map (behind xs) := by
  induction hx generalizing depth ys with
  | nil => exact (map_behind_nil _).symm
  | @token q t ts _ notOpening notClosing _ ih =>
    rw [List.cons_append, closing?.eq_def]
    simp only [notOpening, notClosing, if_false, Bool.false_eq_true]
    rw [ih, map_cons, map_behind_map_behind, List.singleton_append]
  | @group q o c inside ts _ opens closes _ _ _ ihInside ihRest =>
    have notOpening : ¬ c.isOpening := fun h => Token.not_isClosing_of_isOpening h closes
    have inner : closing? (depth + 1) (inside ++ c :: (ts ++ ys)) =
        (closing? depth ys).map (behind (inside ++ c :: ts)) := by
      rw [ihInside, closing?, if_neg notOpening, if_pos closes, ihRest, map_cons,
        map_behind_map_behind, map_behind_map_behind, List.append_assoc, List.singleton_append]
    rw [List.cons_append, List.append_assoc, List.cons_append, closing?.eq_def]
    simp only [opens, if_true]
    rw [inner, map_cons, map_behind_map_behind, List.singleton_append]

/-- A group is closed by the parenthesis after its inside. -/
theorem closing?_of_nested (hx : Balanced q xs) {closer : Token} (closes : closer.isClosing)
    (ys : List Token) : closing? 0 (xs ++ closer :: ys) = some ⟨xs, closer, ys⟩ := by
  have notOpening : ¬ closer.isOpening := fun h => Token.not_isClosing_of_isOpening h closes
  rw [closing?_append hx, closing?, if_neg notOpening, if_pos closes]
  simp [behind]

end Cut

/-! ## Separating arguments -/

/-- Parts of which the first starts with more tokens. -/
def extendFirst (xs : List Token) : List (List Token) → List (List Token)
  | [] => [xs]
  | part :: parts => (xs ++ part) :: parts

theorem extendFirst_nil {parts : List (List Token)} (h : parts ≠ []) :
    extendFirst [] parts = parts := by
  cases parts with
  | nil => exact absurd rfl h
  | cons part parts => rfl

theorem extendFirst_extendFirst (xs ys : List Token) (parts : List (List Token)) :
    extendFirst xs (extendFirst ys parts) = extendFirst (xs ++ ys) parts := by
  cases parts with
  | nil => rfl
  | cons part parts => simp [extendFirst]

theorem splitArgumentsFrom_ne_nil (depth : Nat) (tokens : List Token) :
    splitArgumentsFrom depth tokens ≠ [] := by
  cases tokens with
  | nil => simp [splitArgumentsFrom]
  | cons t rest =>
    simp only [splitArgumentsFrom]
    generalize (if t.isOpening then depth + 1 else if t.isClosing then depth - 1 else depth) = next
    split
    · simp
    · split <;> simp

/-- A token that does not separate goes to the first part. -/
theorem splitArgumentsFrom_cons {depth depth' : Nat} {t : Token} (rest : List Token)
    (next : (if t.isOpening then depth + 1 else if t.isClosing then depth - 1 else depth) = depth')
    (whole : depth' = 0 → t.kind ≠ .separator) :
    splitArgumentsFrom depth (t :: rest) = extendFirst [t] (splitArgumentsFrom depth' rest) := by
  have kept : ¬ (depth' = 0 ∧ t.kind = .separator) := fun ⟨h, separates⟩ => whole h separates
  simp only [splitArgumentsFrom, next, if_neg kept]
  cases splitArgumentsFrom depth' rest <;> rfl

/-- Tokens whose parentheses match go to the first part, unless they separate. -/
theorem splitArgumentsFrom_append {q : Token → Prop} {xs : List Token} (hx : Balanced q xs)
    {depth : Nat} (whole : depth = 0 → ∀ t, q t → t.kind ≠ .separator) (ys : List Token) :
    splitArgumentsFrom depth (xs ++ ys) = extendFirst xs (splitArgumentsFrom depth ys) := by
  induction hx generalizing depth ys with
  | nil => exact (extendFirst_nil (splitArgumentsFrom_ne_nil depth ys)).symm
  | @token q t ts holds notOpening notClosing _ ih =>
    rw [List.cons_append, splitArgumentsFrom_cons _ (by simp [notOpening, notClosing])
      (fun h => whole h t holds), ih whole, extendFirst_extendFirst, List.singleton_append]
  | @group q o c inside ts holds opens closes noComma _ _ ihInside ihRest =>
    have notOpening : ¬ c.isOpening := fun h => Token.not_isClosing_of_isOpening h closes
    have inner : splitArgumentsFrom (depth + 1) (inside ++ c :: (ts ++ ys)) =
        extendFirst (inside ++ c :: ts) (splitArgumentsFrom depth ys) := by
      rw [ihInside (by simp), splitArgumentsFrom_cons _ (by simp [notOpening, closes]; rfl)
        (fun _ => noComma), ihRest whole, extendFirst_extendFirst, extendFirst_extendFirst,
        List.append_assoc, List.singleton_append]
    rw [List.cons_append, List.append_assoc, List.cons_append,
      splitArgumentsFrom_cons _ (by simp [opens]; rfl) (by simp), inner, extendFirst_extendFirst,
      List.singleton_append]

/-- A comma at the top level separates. -/
theorem splitArgumentsFrom_comma (rest : List Token) :
    splitArgumentsFrom 0 (Token.comma :: rest) = [] :: splitArgumentsFrom 0 rest := rfl

end JoinSheet
