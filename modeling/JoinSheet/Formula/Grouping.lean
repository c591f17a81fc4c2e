import JoinSheet.Formula.Token

/-!
# Groups of tokens

Parentheses group the tokens between them, for calls as well as for plain groups. A token lies at the
top level if no group contains it; the opening parenthesis of a group at the top level lies there too,
its closing one does not.

## Main definitions

* `Cut` — tokens around a token.
* `Cut.first?` — the first token of a kind at the top level.
* `Cut.closing?` — the parenthesis that closes a group.
* `splitArguments` — the arguments of a call.
-/

namespace JoinSheet

/-- A token and the tokens around it. -/
structure Cut where
  before : List Token
  token : Token
  after : List Token
  deriving DecidableEq

namespace Cut

/-- All tokens of a cut. -/
def whole (c : Cut) : List Token := c.before ++ c.token :: c.after

/-- The cut with one more token in front. -/
def cons (t : Token) (c : Cut) : Cut := { c with before := t :: c.before }

@[simp] theorem whole_cons (t : Token) (c : Cut) : (c.cons t).whole = t :: c.whole := rfl

/-- The first token at the top level that satisfies `p` together with the tokens after it, when
`depth` groups are open. A closing parenthesis without an opening one is passed over. -/
def firstFrom? (p : Token → List Token → Bool) : Nat → List Token → Option Cut
  | _, [] => none
  | depth, t :: rest =>
    if t.isClosing then (firstFrom? p (depth - 1) rest).map (cons t)
    else if depth = 0 ∧ p t rest then some ⟨[], t, rest⟩
    else (firstFrom? p (if t.isOpening then depth + 1 else depth) rest).map (cons t)

/-- The first token at the top level that satisfies `p` together with the tokens after it. -/
def first? (p : Token → List Token → Bool) (tokens : List Token) : Option Cut :=
  firstFrom? p 0 tokens

theorem whole_of_firstFrom? {p : Token → List Token → Bool} {depth : Nat} {tokens : List Token}
    {c : Cut} (h : firstFrom? p depth tokens = some c) : c.whole = tokens := by
  induction tokens generalizing depth c with
  | nil => simp [firstFrom?] at h
  | cons t rest ih =>
    simp only [firstFrom?] at h
    split at h
    · obtain ⟨d, hd, rfl⟩ := Option.map_eq_some_iff.1 h
      simp [ih hd]
    · split at h
      · cases h; rfl
      · obtain ⟨d, hd, rfl⟩ := Option.map_eq_some_iff.1 h
        simp [ih hd]

theorem whole_of_first? {p : Token → List Token → Bool} {tokens : List Token} {c : Cut}
    (h : first? p tokens = some c) : c.whole = tokens := whole_of_firstFrom? h

/-- The closing parenthesis of the group that `tokens` follow the opening one of, when `depth` groups
are open within it. -/
def closing? : Nat → List Token → Option Cut
  | _, [] => none
  | depth, t :: rest =>
    if t.isOpening then (closing? (depth + 1) rest).map (cons t)
    else if t.isClosing then
      match depth with
      | 0 => some ⟨[], t, rest⟩
      | depth + 1 => (closing? depth rest).map (cons t)
    else (closing? depth rest).map (cons t)

theorem whole_of_closing? {depth : Nat} {tokens : List Token} {c : Cut}
    (h : closing? depth tokens = some c) : c.whole = tokens := by
  induction tokens generalizing depth c with
  | nil => simp [closing?] at h
  | cons t rest ih =>
    simp only [closing?] at h
    split at h
    · obtain ⟨d, hd, rfl⟩ := Option.map_eq_some_iff.1 h
      simp [ih hd]
    · split at h
      · split at h
        · cases h; rfl
        · obtain ⟨d, hd, rfl⟩ := Option.map_eq_some_iff.1 h
          simp [ih hd]
      · obtain ⟨d, hd, rfl⟩ := Option.map_eq_some_iff.1 h
        simp [ih hd]

theorem length_whole (c : Cut) : c.whole.length = c.before.length + c.after.length + 1 := by
  simp only [whole, List.length_append, List.length_cons]; omega

end Cut

/-- The parts between the separators at the top level, when `depth` groups are open. -/
def splitArgumentsFrom (depth : Nat) : List Token → List (List Token)
  | [] => [[]]
  | t :: rest =>
    let depth := if t.isOpening then depth + 1 else if t.isClosing then depth - 1 else depth
    if depth = 0 ∧ t.kind = .separator then [] :: splitArgumentsFrom depth rest
    else match splitArgumentsFrom depth rest with
      | [] => [[t]]
      | part :: parts => (t :: part) :: parts

/-- The arguments of a call from the tokens between its parentheses. No tokens are no arguments. -/
def splitArguments (tokens : List Token) : List (List Token) :=
  if tokens = [] then [] else splitArgumentsFrom 0 tokens

theorem length_le_of_mem_splitArgumentsFrom {depth : Nat} {tokens part : List Token}
    (h : part ∈ splitArgumentsFrom depth tokens) : part.length ≤ tokens.length := by
  induction tokens generalizing depth part with
  | nil => simp_all [splitArgumentsFrom]
  | cons t rest ih =>
    simp only [splitArgumentsFrom] at h
    generalize (if t.isOpening = true then depth + 1 else
      if t.isClosing = true then depth - 1 else depth) = d at h
    split at h
    · rcases List.mem_cons.1 h with rfl | h
      · simp
      · exact Nat.le_succ_of_le (ih h)
    · split at h
      · simp_all
      · rename_i first parts hs
        rcases List.mem_cons.1 h with rfl | h
        · exact Nat.succ_le_succ (ih (hs ▸ List.mem_cons_self))
        · exact Nat.le_succ_of_le (ih (hs ▸ List.mem_cons_of_mem _ h))

theorem length_le_of_mem_splitArguments {tokens part : List Token}
    (h : part ∈ splitArguments tokens) : part.length ≤ tokens.length := by
  unfold splitArguments at h
  split at h
  · simp at h
  · exact length_le_of_mem_splitArgumentsFrom h

end JoinSheet
