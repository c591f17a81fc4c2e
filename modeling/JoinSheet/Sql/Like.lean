import JoinSheet.Text.Basic

/-!
# Matching with wildcards

In a pattern, `%` stands for any bytes and `_` for one byte; other bytes stand for themselves up to
the case of the letters A to Z. A match reads pattern and text once. Where they do not go together,
the last `%` that was passed takes one more byte and the match goes on from there. The `%` before it
never have to be tried again, so the work is bounded by the lengths of both.

## Main definitions

* `Like.fits` — whether a byte of a pattern stands for a byte.
* `Like.Retry` — where a match goes on once it fails.
* `Like.isMatch` — whether a text matches a pattern.
-/

namespace JoinSheet

/-- The UTF-8 bytes of a text. -/
def Text.utf8 (t : Text) : List UInt8 := t.flatMap String.utf8EncodeChar

namespace Like

/-- The byte of `%`, which stands for any run of bytes. -/
def anyRun : UInt8 := 0x25

/-- The byte of `_`, which stands for any byte. -/
def anyByte : UInt8 := 0x5f

/-- The letters A to Z in lower case, all other bytes as they are. -/
def lowerByte (b : UInt8) : UInt8 := if 0x41 ≤ b ∧ b ≤ 0x5a then b + 0x20 else b

/-- Whether a byte of a pattern other than `%` stands for a byte. -/
def fits (p b : UInt8) : Bool := p == anyByte || lowerByte p == lowerByte b

/-- Where a match goes on if `pattern` and `text`, which are left of it, do not go together: with the
pattern after the last `%` that was passed, and with the text that this `%` has left to it, less one
byte. Since then as many bytes of the pattern have been passed as of the text, no `%` among them. -/
structure Retry (pattern text : List UInt8) where
  after : List UInt8
  start : List UInt8
  aligned : ∃ passed taken, after = passed ++ pattern ∧ start = taken ++ text ∧
    passed.length = taken.length ∧ anyRun ∉ passed

namespace Retry

variable {pattern text : List UInt8}

/-- A `%` has just been passed, and has taken nothing yet. -/
def here : Retry pattern text := ⟨pattern, text, [], [], rfl, rfl, rfl, List.not_mem_nil⟩

/-- One more byte of the pattern has been passed with one of the text. -/
def next {p b : UInt8} (h : p ≠ anyRun) (r : Retry (p :: pattern) (b :: text)) :
    Retry pattern text where
  after := r.after
  start := r.start
  aligned := by
    obtain ⟨passed, taken, after, start, length, none⟩ := r.aligned
    exact ⟨passed ++ [p], taken ++ [b], by simp [after], by simp [start], by simp [length],
      by simp [none, h.symm]⟩

theorem length_le (r : Retry pattern text) :
    pattern.length ≤ r.after.length ∧ text.length ≤ r.start.length := by
  obtain ⟨passed, taken, after, start, -, -⟩ := r.aligned
  simp [after, start]

end Retry

/-- Whether what is left of a text matches what is left of a pattern, or would if the last `%` that
was passed had taken more. With every step the text that this `%` may leave gets shorter, or the
pattern after it does, or the pattern that is left. -/
def matchFrom (pattern text : List UInt8) (retry : Option (Retry pattern text)) : Bool :=
  match text, pattern, retry with
  | [], pattern, _ => pattern.all (· == anyRun)
  | b :: text, p :: pattern, retry =>
    if run : p = anyRun then matchFrom pattern (b :: text) (some .here)
    else if fits p b then matchFrom pattern text (retry.map (.next run))
    else match retry with
      | some r => matchFrom r.after r.start.tail (some .here)
      | none => false
  | _ :: _, [], some r => matchFrom r.after r.start.tail (some .here)
  | _ :: _, [], none => false
termination_by (retry.elim (text.length + 1) fun r => r.start.length,
  retry.elim 0 fun r => r.after.length, pattern.length)
decreasing_by
  · cases retry with
    | none => simp [Prod.lex_def, Retry.here]
    | some r =>
      have := r.length_le
      simp only [List.length_cons] at this
      simp only [Option.elim_some, Prod.lex_def, Retry.here, List.length_cons]
      omega
  · cases retry <;> simp [Prod.lex_def, Retry.next]
  all_goals
    have := r.length_le
    simp only [List.length_cons] at this
    simp only [Option.elim_some, Prod.lex_def, Retry.here, List.length_tail]
    omega

/-- Whether a text matches a pattern. -/
def isMatch (pattern text : List UInt8) : Bool := matchFrom pattern text none

end Like

end JoinSheet
