import JoinSheet.Number.Reading
import Mathlib.Data.List.TakeWhile

/-!
# What numerals look like

Numerals consist of digits, points, signs and the letter of an exponent, and of no blanks. Whether a
text is one does not depend on which digits stand at its end.

## Main statements

* `Numeral.isSome_ofText?_append` — digits at the end of a text stand for any others there.
* `Numeral.isMark_of_ofText?` — the characters of a numeral.
* `Numeral.trim_eq_of_ofText?` — there are no blanks around a numeral.
-/

namespace JoinSheet

namespace Text

variable {t digits : Text} {sep : Char}

theorem isSome_toNat? : (toNat? t).isSome ↔ t ≠ [] ∧ ∀ c ∈ t, c.isDigit := by
  unfold toNat?
  split
  next h => simpa using h
  next h => simpa using h

theorem cut?_eq_none : cut? sep t = none ↔ sep ∉ t := by
  induction t with
  | nil => simp [cut?]
  | cons c t ih =>
    by_cases here : c = sep
    · simp [cut?, here]
    · simp [cut?, here, Ne.symm here, ih]

/-- The first occurrence of a separator is that before a text without it. -/
theorem cut?_append_of_not_mem (absent : sep ∉ digits) (t : Text) :
    cut? sep (t ++ digits) = (cut? sep t).map fun (a, b) => (a, b ++ digits) := by
  induction t with
  | nil => exact cut?_eq_none.2 absent
  | cons c t ih =>
    by_cases here : c = sep
    · simp [cut?, here]
    · rw [List.cons_append, cut?, cut?, if_neg here, if_neg here, ih]
      cases cut? sep t <;> rfl

theorem trim_eq_of_forall (h : ∀ c ∈ t, isBlank c = false) : t.trim = t := by
  have same {l : Text} (h : ∀ c ∈ l, isBlank c = false) : l.dropWhile isBlank = l := by
    cases l with
    | nil => rfl
    | cons c l => rw [List.dropWhile_cons_of_neg (by simp [h c])]
  rw [trim, same h, dropTrailing, same (by simpa using h), List.reverse_reverse]

/-- A run of digits, at least one of them. -/
structure IsDigits (t : Text) : Prop where
  written : t ≠ []
  all : ∀ c ∈ t, c.isDigit

theorem isDigit_of_mem_zeros {n : Nat} {c : Char} (h : c ∈ List.replicate n '0') : c.isDigit := by
  rw [List.eq_of_mem_replicate h]
  rfl

theorem isDigits_ofNat (n : Nat) : (ofNat n).IsDigits :=
  ⟨Nat.toDigits_ne_nil, fun _ => Nat.isDigit_of_mem_toDigits (by decide) (by decide)⟩

namespace IsDigits

variable (h : digits.IsDigits)

include h

theorem not_mem {c : Char} (other : c.isDigit = false) : c ∉ digits := by
  intro mem
  have digit := h.all c mem
  rw [other] at digit
  cases digit

theorem append_zeros (n : Nat) : (digits ++ List.replicate n '0').IsDigits :=
  ⟨List.append_ne_nil_of_left_ne_nil h.written _,
    List.forall_mem_append.2 ⟨h.all, fun _ => isDigit_of_mem_zeros⟩⟩

theorem zeros_append (n : Nat) : IsDigits (List.replicate n '0' ++ digits) :=
  ⟨List.append_ne_nil_of_right_ne_nil _ h.written,
    List.forall_mem_append.2 ⟨fun _ => isDigit_of_mem_zeros, h.all⟩⟩

theorem toNat?_eq : toNat? digits = some (Nat.ofDigitChars 10 digits 0) :=
  if_pos ⟨h.written, by simpa using h.all⟩

theorem isSome_toNat?_append (t : Text) : (toNat? (t ++ digits)).isSome ↔ ∀ c ∈ t, c.isDigit := by
  rw [isSome_toNat?]
  constructor
  · exact fun ⟨_, all⟩ c mem => all c (List.mem_append_left _ mem)
  · refine fun all => ⟨by simp [h.written], fun c mem => ?_⟩
    exact (List.mem_append.1 mem).elim (all c) (h.all c)

end IsDigits

/-- A text that does not start with a sign is an integer if it is a natural number. -/
theorem toInt?_of_head? (unsigned : ∀ c ∈ t.head?, ¬(c = '+' ∨ c = '-')) :
    toInt? t = (toNat? t).map Int.ofNat := by
  unfold toInt?
  split
  · exact absurd (.inl rfl) (unsigned _ rfl)
  · exact absurd (.inr rfl) (unsigned _ rfl)
  · rfl

end Text

namespace Numeral

open Text

variable {t digits digits' : Text} {c : Char}

/-- The letters that an exponent may start with. -/
def IsExponentLetter (c : Char) : Prop := c = 'e' ∨ c = 'E'

theorem magnitude?_of_forall (plain : ∀ c ∈ t, ¬IsExponentLetter c) :
    magnitude? t = (fixedPoint? t).map fun (n, places) => (n, -Int.ofNat places) := by
  have whole : (t.takeWhile fun c => c != 'e' && c != 'E') = t :=
    List.takeWhile_eq_self_iff.2 fun c mem => by simpa [IsExponentLetter] using plain c mem
  simp only [magnitude?, whole, List.drop_length]

theorem magnitude?_append_cons (plain : ∀ c ∈ t, ¬IsExponentLetter c) (letter : IsExponentLetter c)
    (power : Text) : magnitude? (t ++ c :: power) = (do
      let (n, places) ← fixedPoint? t
      let exponent ← toInt? power
      return (n, exponent - places)) := by
  have stem : ((t ++ c :: power).takeWhile fun c => c != 'e' && c != 'E') = t := by
    rw [List.takeWhile_append_of_pos fun c mem => by simpa [IsExponentLetter] using plain c mem,
      List.takeWhile_cons_of_neg (by obtain rfl | rfl := letter <;> decide)]
    simp
  simp only [magnitude?, stem, List.drop_left]

theorem exists_exponent (t : Text) : (∀ c ∈ t, ¬IsExponentLetter c) ∨
    ∃ stem c power, t = stem ++ c :: power ∧ (∀ c ∈ stem, ¬IsExponentLetter c) ∧
      IsExponentLetter c := by
  induction t with
  | nil => exact .inl (by simp)
  | cons c t ih =>
    by_cases letter : IsExponentLetter c
    · exact .inr ⟨[], c, t, rfl, by simp, letter⟩
    · obtain plain | ⟨stem, d, power, rfl, plain, found⟩ := ih
      · exact .inl (List.forall_mem_cons.2 ⟨letter, plain⟩)
      · exact .inr ⟨c :: stem, d, power, rfl, List.forall_mem_cons.2 ⟨letter, plain⟩, found⟩

/-- A text that does not start with a sign is a numeral if it is one without a sign. -/
theorem ofText?_of_head? (unsigned : ∀ c ∈ t.head?, ¬(c = '+' ∨ c = '-')) :
    ofText? t = (magnitude? t).map fun (n, e) => ⟨false, n, e⟩ := by
  unfold ofText?
  split
  · exact absurd (.inl rfl) (unsigned _ rfl)
  · exact absurd (.inr rfl) (unsigned _ rfl)
  · rfl

/-! ## Digits at the end -/

section Digits

variable (h : digits.IsDigits) (h' : digits'.IsDigits)

include h h'

theorem isSome_fixedPoint?_append (t : Text) :
    (fixedPoint? (t ++ digits)).isSome ↔ (fixedPoint? (t ++ digits')).isSome := by
  unfold fixedPoint?
  rw [cut?_append_of_not_mem (h.not_mem rfl), cut?_append_of_not_mem (h'.not_mem rfl)]
  cases t.cut? '.' with
  | none =>
    simp only [Option.map_none, Option.isSome_map]
    rw [h.isSome_toNat?_append, h'.isSome_toNat?_append]
  | some parts =>
    simp only [Option.map_some, Option.isSome_map, ← List.append_assoc]
    rw [h.isSome_toNat?_append, h'.isSome_toNat?_append]

theorem isSome_toInt?_append (t : Text) :
    (toInt? (t ++ digits)).isSome ↔ (toInt? (t ++ digits')).isSome := by
  by_cases signed : ∃ c t', t = c :: t' ∧ (c = '+' ∨ c = '-')
  · obtain ⟨_, t', rfl, rfl | rfl⟩ := signed
    all_goals
      simp only [List.cons_append, toInt?, Option.isSome_map]
      rw [h.isSome_toNat?_append, h'.isSome_toNat?_append]
  · -- A text without a sign has none once digits follow it.
    have unsigned {ds : Text} (run : ds.IsDigits) : ∀ c ∈ (t ++ ds).head?, ¬(c = '+' ∨ c = '-') := by
      intro c first sign
      cases t with
      | nil =>
        have mem : c ∈ ds := List.mem_of_mem_head? first
        obtain rfl | rfl := sign <;> exact run.not_mem rfl mem
      | cons d t =>
        obtain rfl : d = c := Option.some.inj first
        exact signed ⟨d, t, rfl, sign⟩
    rw [toInt?_of_head? (unsigned h), toInt?_of_head? (unsigned h'), Option.isSome_map,
      Option.isSome_map, h.isSome_toNat?_append, h'.isSome_toNat?_append]

theorem isSome_magnitude?_append (t : Text) :
    (magnitude? (t ++ digits)).isSome ↔ (magnitude? (t ++ digits')).isSome := by
  have noLetter {ds : Text} (digits : ds.IsDigits) : ∀ c ∈ ds, ¬IsExponentLetter c := by
    rintro _ mem (rfl | rfl)
    · exact digits.not_mem rfl mem
    · exact digits.not_mem rfl mem
  obtain plain | ⟨stem, c, power, rfl, plain, letter⟩ := exists_exponent t
  · rw [magnitude?_of_forall (List.forall_mem_append.2 ⟨plain, noLetter h⟩),
      magnitude?_of_forall (List.forall_mem_append.2 ⟨plain, noLetter h'⟩), Option.isSome_map,
      Option.isSome_map, isSome_fixedPoint?_append h h']
  · rw [List.append_assoc, List.append_assoc, List.cons_append, List.cons_append,
      magnitude?_append_cons plain letter, magnitude?_append_cons plain letter]
    have power := isSome_toInt?_append h h' power
    cases fixedPoint? stem with
    | none => exact Iff.rfl
    | some read => simpa [Option.isSome_bind] using power

/-- Whether a text with digits at its end is a numeral does not depend on the digits. -/
theorem isSome_ofText?_append (written : t ≠ []) :
    (ofText? (t ++ digits)).isSome ↔ (ofText? (t ++ digits')).isSome := by
  cases t with
  | nil => exact absurd rfl written
  | cons c t =>
    simp only [List.cons_append]
    by_cases signed : c = '+' ∨ c = '-'
    · obtain rfl | rfl := signed
      all_goals
        simp only [ofText?, Option.isSome_map]
        exact isSome_magnitude?_append h h' t
    · rw [ofText?_of_head? (by simpa using signed), ofText?_of_head? (by simpa using signed),
        Option.isSome_map, Option.isSome_map]
      exact isSome_magnitude?_append h h' (c :: t)

end Digits

/-! ## Characters -/

/-- The characters that numerals consist of. -/
def IsMark (c : Char) : Prop := c.isDigit ∨ c ∈ ['.', '+', '-', 'e', 'E']

instance (c : Char) : Decidable (IsMark c) := inferInstanceAs (Decidable (_ ∨ _))

theorem not_isBlank_of_isMark (h : IsMark c) : isBlank c = false := by
  obtain digit | mem := h
  · have bounds : 48 ≤ c.toNat ∧ c.toNat ≤ 57 := by
      simpa [Char.isDigit, UInt32.le_iff_toNat_le] using digit
    simp [isBlank]
    omega
  · have others : ∀ c ∈ ['.', '+', '-', 'e', 'E'], isBlank c = false := by simp [isBlank]
    exact others c mem

theorem isMark_of_toNat? (h : (toNat? t).isSome) : ∀ c ∈ t, IsMark c :=
  fun c mem => .inl ((isSome_toNat?.1 h).2 c mem)

theorem isMark_of_fixedPoint? (h : (fixedPoint? t).isSome) : ∀ c ∈ t, IsMark c := by
  unfold fixedPoint? at h
  split at h
  next => exact isMark_of_toNat? (by simpa using h)
  next whole fraction cut =>
    have plain := isMark_of_toNat? (t := whole ++ fraction) (by simpa using h)
    rw [append_of_cut? cut]
    rw [List.forall_mem_append] at plain ⊢
    exact ⟨plain.1, List.forall_mem_cons.2 ⟨.inr (by simp), plain.2⟩⟩

theorem isMark_of_toInt? (h : (toInt? t).isSome) : ∀ c ∈ t, IsMark c := by
  unfold toInt? at h
  split at h
  · exact List.forall_mem_cons.2 ⟨.inr (by simp), isMark_of_toNat? (by simpa using h)⟩
  · exact List.forall_mem_cons.2 ⟨.inr (by simp), isMark_of_toNat? (by simpa using h)⟩
  · exact isMark_of_toNat? (by simpa using h)

theorem isMark_of_magnitude? (h : (magnitude? t).isSome) : ∀ c ∈ t, IsMark c := by
  obtain plain | ⟨stem, c, power, rfl, plain, letter⟩ := exists_exponent t
  · rw [magnitude?_of_forall plain, Option.isSome_map] at h
    exact isMark_of_fixedPoint? h
  · rw [magnitude?_append_cons plain letter] at h
    cases read : fixedPoint? stem with
    | none => simp [read] at h
    | some parts =>
      have exponent : (toInt? power).isSome := by simpa [read, Option.isSome_bind] using h
      refine List.forall_mem_append.2 ⟨isMark_of_fixedPoint? (by simp [read]), ?_⟩
      refine List.forall_mem_cons.2 ⟨?_, isMark_of_toInt? exponent⟩
      obtain rfl | rfl := letter <;> exact .inr (by simp)

theorem isMark_of_ofText? (h : (ofText? t).isSome) : ∀ c ∈ t, IsMark c := by
  unfold ofText? at h
  split at h
  · exact List.forall_mem_cons.2 ⟨.inr (by simp), isMark_of_magnitude? (by simpa using h)⟩
  · exact List.forall_mem_cons.2 ⟨.inr (by simp), isMark_of_magnitude? (by simpa using h)⟩
  · exact isMark_of_magnitude? (by simpa using h)

/-- A text with another character than those of numerals is none. -/
theorem ofText?_eq_none (mem : c ∈ t) (other : ¬IsMark c) : ofText? t = none :=
  Option.not_isSome_iff_eq_none.1 fun h => other (isMark_of_ofText? h c mem)

/-- There are no blanks around a numeral. -/
theorem trim_eq_of_ofText? (h : (ofText? t).isSome) : t.trim = t :=
  trim_eq_of_forall fun c mem => not_isBlank_of_isMark (isMark_of_ofText? h c mem)

end Numeral

end JoinSheet
