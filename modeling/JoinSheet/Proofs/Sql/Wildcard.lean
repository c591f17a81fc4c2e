import JoinSheet.Sql.Like
import Mathlib.Data.List.Forall2

/-!
# What wildcards match

A text matches a pattern if it can be cut into pieces, one for each byte of the pattern, such that
every byte of the pattern may take its piece. A match finds such pieces although it forgets all `%`
but the last one. What an earlier `%` could take more, the last one can take as well, since between
the two the pattern takes one byte at a time.

## Main definitions

* `Like.Takes` — the pieces that a byte of a pattern may take.
* `Like.Matches` — a text is cut into pieces that the bytes of a pattern take.

## Main statements

* `Like.Retry.matches_of_earlier` — a match that an earlier `%` allows is one that the last `%`
  allows.
* `Like.matchFrom_iff` — what is found from some place in pattern and text.
* `Like.isMatch_iff` — a match is found if and only if there is one.
-/

namespace JoinSheet

namespace Like

/-- A `%` may take any run of bytes, a `_` any one byte, and another byte one that is equal to it up
to the case of the letters A to Z. -/
def Takes (p : UInt8) (piece : List UInt8) : Prop :=
  if p = anyRun then True
  else if p = anyByte then ∃ b, piece = [b]
  else ∃ b, piece = [b] ∧ lowerByte p = lowerByte b

/-- The text is cut into pieces, one for each byte of the pattern in order, which that byte may
take. -/
def Matches (pattern text : List UInt8) : Prop :=
  ∃ pieces : List (List UInt8), pieces.flatten = text ∧ List.Forall₂ Takes pattern pieces

variable {p b : UInt8} {pattern passed text : List UInt8}

/-! ## Cutting a text -/

theorem takes_anyRun (piece : List UInt8) : Takes anyRun piece := by simp [Takes]

theorem takes_iff (h : p ≠ anyRun) {piece : List UInt8} :
    Takes p piece ↔ ∃ b, piece = [b] ∧ fits p b := by
  unfold Takes fits
  rw [if_neg h]
  split
  next any => simp [any]
  next other => simp [other]

theorem matches_nil : Matches [] text ↔ text = [] := by
  simp [Matches, eq_comm]

theorem matches_cons : Matches (p :: pattern) text ↔
    ∃ piece rest, text = piece ++ rest ∧ Takes p piece ∧ Matches pattern rest := by
  constructor
  · rintro ⟨_, rfl, each⟩
    obtain ⟨piece, pieces, takes, others, rfl⟩ := List.forall₂_cons_left_iff.1 each
    exact ⟨piece, pieces.flatten, List.flatten_cons, takes, pieces, rfl, others⟩
  · rintro ⟨piece, _, rfl, takes, pieces, rfl, others⟩
    exact ⟨piece :: pieces, List.flatten_cons, .cons takes others⟩

/-- After a `%` the rest of the pattern may match at any place of the text. -/
theorem matches_anyRun : Matches (anyRun :: pattern) text ↔
    ∃ rest, rest <:+ text ∧ Matches pattern rest := by
  rw [matches_cons]
  constructor
  · rintro ⟨piece, rest, rfl, -, found⟩
    exact ⟨rest, List.suffix_append piece rest, found⟩
  · rintro ⟨rest, ⟨piece, rfl⟩, found⟩
    exact ⟨piece, rest, rfl, takes_anyRun piece, found⟩

/-- A `%` takes nothing, or at least one byte. -/
theorem matches_anyRun_iff_or : Matches (anyRun :: pattern) text ↔
    Matches pattern text ∨ Matches (anyRun :: pattern) text.tail := by
  simp only [matches_anyRun]
  constructor
  · rintro ⟨rest, suffix, found⟩
    cases text with
    | nil => exact .inl (List.suffix_nil.1 suffix ▸ found)
    | cons b text =>
      obtain rfl | suffix := List.suffix_cons_iff.1 suffix
      · exact .inl found
      · exact .inr ⟨rest, suffix, found⟩
  · rintro (found | ⟨rest, suffix, found⟩)
    · exact ⟨text, List.suffix_rfl, found⟩
    · exact ⟨rest, suffix.trans (List.tail_suffix text), found⟩

theorem matches_anyRun_anyRun (h : Matches (anyRun :: anyRun :: pattern) text) :
    Matches (anyRun :: pattern) text := by
  obtain ⟨rest, outer, found⟩ := matches_anyRun.1 h
  obtain ⟨rest, inner, found⟩ := matches_anyRun.1 found
  exact matches_anyRun.2 ⟨rest, inner.trans outer, found⟩

theorem not_matches_nil (h : p ≠ anyRun) : ¬Matches (p :: pattern) [] := by
  rw [matches_cons]
  rintro ⟨_, rest, cut, takes, -⟩
  obtain ⟨b, rfl, -⟩ := (takes_iff h).1 takes
  cases cut

/-- A byte of the pattern other than `%` takes the first byte of the text. -/
theorem matches_cons_cons (h : p ≠ anyRun) :
    Matches (p :: pattern) (b :: text) ↔ fits p b ∧ Matches pattern text := by
  rw [matches_cons]
  constructor
  · rintro ⟨_, rest, cut, takes, found⟩
    obtain ⟨b', rfl, fit⟩ := (takes_iff h).1 takes
    obtain ⟨rfl, rfl⟩ := List.cons.inj cut
    exact ⟨fit, found⟩
  · rintro ⟨fit, found⟩
    exact ⟨[b], text, rfl, (takes_iff h).2 ⟨b, rfl, fit⟩, found⟩

theorem matches_nil_right : Matches pattern [] ↔ pattern.all (· == anyRun) := by
  induction pattern with
  | nil => simp [matches_nil]
  | cons p pattern ih =>
    by_cases run : p = anyRun
    · subst run
      simp [matches_anyRun, List.suffix_nil, ih]
    · simp [not_matches_nil run, run]

/-- A pattern without `%` takes as many bytes as it has. -/
theorem matches_drop (h : anyRun ∉ passed) (found : Matches (passed ++ pattern) text) :
    Matches pattern (text.drop passed.length) := by
  induction passed generalizing text with
  | nil => exact found
  | cons p passed ih =>
    have run : p ≠ anyRun := fun same => h (same ▸ List.mem_cons_self)
    have plain : anyRun ∉ passed := fun mem => h (List.mem_cons_of_mem p mem)
    cases text with
    | nil => exact absurd found (not_matches_nil run)
    | cons b text => exact ih plain ((matches_cons_cons run).1 found).2

/-! ## Matching -/

/-- What an earlier `%` could take more, the last one can take as well. -/
theorem Retry.matches_of_earlier (r : Retry pattern text)
    (h : Matches (anyRun :: r.after) r.start.tail) : Matches (anyRun :: pattern) text.tail := by
  obtain ⟨passed, taken, after, start, length, plain⟩ := r.aligned
  rw [after, start, matches_anyRun] at h
  obtain ⟨rest, ⟨skipped, cut⟩, found⟩ := h
  refine matches_anyRun.2 ⟨rest.drop passed.length, ?_, matches_drop plain found⟩
  have cut : rest = (taken ++ text).tail.drop skipped.length := by
    rw [← cut, List.drop_left]
  have moved : rest.drop passed.length = text.tail.drop skipped.length := by
    rw [cut, length, ← List.drop_one, ← List.drop_one, List.drop_drop, List.drop_drop,
      List.drop_drop, show 1 + (skipped.length + taken.length) = taken.length + (1 + skipped.length)
        by omega, ← List.drop_drop, List.drop_left]
  exact moved ▸ List.drop_suffix _ _

theorem exists_mem_here : (∃ r ∈ some (.here : Retry pattern text),
    Matches (anyRun :: r.after) r.start.tail) ↔ Matches (anyRun :: pattern) text.tail := by
  simp [Retry.here]

/-- What is found from some place in pattern and text: a match of what is left of them, or one that
the last `%` allows if it takes more. -/
theorem matchFrom_iff (pattern text : List UInt8) (retry : Option (Retry pattern text)) :
    matchFrom pattern text retry ↔
      Matches pattern text ∨ ∃ r ∈ retry, Matches (anyRun :: r.after) r.start.tail := by
  fun_induction matchFrom pattern text retry with
  | case1 pattern retry =>
    rw [matches_nil_right]
    refine ⟨.inl, ?_⟩
    rintro (found | ⟨r, -, found⟩)
    · exact found
    · have found := r.matches_of_earlier found
      rw [List.tail_nil, matches_nil_right] at found
      simpa using found
  | case2 b text pattern retry ih =>
    rw [ih, exists_mem_here, ← matches_anyRun_iff_or]
    refine ⟨.inl, ?_⟩
    rintro (found | ⟨r, -, found⟩)
    · exact found
    · exact matches_anyRun_iff_or.2 (.inr (matches_anyRun_anyRun (r.matches_of_earlier found)))
  | case3 b text p pattern run fit retry ih =>
    rw [ih, matches_cons_cons run, and_iff_right fit]
    simp [Retry.next]
  | case4 b text p pattern run misfit r ih =>
    rw [ih, exists_mem_here, ← matches_anyRun_iff_or, matches_cons_cons run]
    simp [misfit]
  | case5 b text p pattern run misfit => simp [matches_cons_cons run, misfit]
  | case6 b text r ih =>
    rw [ih, exists_mem_here, ← matches_anyRun_iff_or, matches_nil]
    simp
  | case7 b text => simp [matches_nil]

/-- A match is found if and only if the text can be cut into pieces that the bytes of the pattern may
take. -/
theorem isMatch_iff (pattern text : List UInt8) :
    isMatch pattern text = true ↔
      ∃ pieces : List (List UInt8), pieces.flatten = text ∧ List.Forall₂ Takes pattern pieces := by
  simp [isMatch, matchFrom_iff, Matches]

end Like

end JoinSheet
