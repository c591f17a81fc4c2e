/-!
# Texts

A text is a list of characters, so that scanning, quoting and rendering are functions on lists.
String literals stand for the texts they spell.

## Main definitions

* `Text.utf8Size` — the length of a text in UTF-8 bytes, which error positions count.
* `Text.eqIgnoringCase` — equality up to the case of the letters A to Z.
* `Text.cut?`, `Text.split` — the parts around the first or every occurrence of a character.
* `Text.dropTrailing` — a text without its last characters of some class.
* `isBlank`, `Text.trim` — the characters with the Unicode property `White_Space`, and a text without
  them at its ends.
* `Text.ofNat`, `Text.ofInt`, `Text.toNat?`, `Text.toInt?` — decimal numerals.
-/

namespace JoinSheet

/-- A text is the list of its characters. -/
abbrev Text := List Char

instance : Coe String Text := ⟨String.toList⟩

namespace Text

/-- The number of bytes that the UTF-8 form of a text takes. -/
def utf8Size : Text → Nat
  | [] => 0
  | c :: rest => c.utf8Size + utf8Size rest

@[simp] theorem utf8Size_nil : utf8Size [] = 0 := rfl

@[simp] theorem utf8Size_cons (c : Char) (t : Text) :
    utf8Size (c :: t) = c.utf8Size + utf8Size t := rfl

@[simp] theorem utf8Size_append (s t : Text) : utf8Size (s ++ t) = utf8Size s + utf8Size t := by
  induction s with
  | nil => simp
  | cons c rest ih => simp [ih, Nat.add_assoc]

/-! ## Letter case -/

/-- The letters a to z in upper case, all other characters as they are. -/
def upper (t : Text) : Text := t.map Char.toUpper

/-- The letters A to Z in lower case, all other characters as they are. -/
def lower (t : Text) : Text := t.map Char.toLower

/-- Equality up to the case of the letters A to Z. -/
def eqIgnoringCase (s t : Text) : Bool := s.lower == t.lower

theorem isUpper_iff {c : Char} : c.isUpper ↔ 65 ≤ c.toNat ∧ c.toNat ≤ 90 := by
  have bounds : c.isUpper = decide ('A'.val ≤ c.val ∧ c.val ≤ 'Z'.val) := rfl
  simp [bounds, UInt32.le_iff_toNat_le]

theorem toNat_toLower (c : Char) :
    c.toLower.toNat = if 65 ≤ c.toNat ∧ c.toNat ≤ 90 then c.toNat + 32 else c.toNat := by
  have bounds : 'A'.val ≤ c.val ∧ c.val ≤ 'Z'.val ↔ 65 ≤ c.toNat ∧ c.toNat ≤ 90 := by
    simp [UInt32.le_iff_toNat_le]
  by_cases upper : 65 ≤ c.toNat ∧ c.toNat ≤ 90
  · have lower : c.toLower.toNat = (c.val + 32).toNat :=
      congrArg Char.toNat (dif_pos (bounds.2 upper))
    have sum : (c.val + 32).toNat = (c.toNat + 32) % 2 ^ 32 := UInt32.toNat_add c.val 32
    rw [if_pos upper, lower, sum]
    exact Nat.mod_eq_of_lt (by omega)
  · have same : c.toLower = c := dif_neg fun h => upper (bounds.1 h)
    rw [if_neg upper, same]

/-! ## Cutting -/

/-- The parts before and after the first occurrence of `sep`. -/
def cut? (sep : Char) : Text → Option (Text × Text)
  | [] => none
  | c :: rest => if c = sep then some ([], rest) else (cut? sep rest).map fun (a, b) => (c :: a, b)

theorem append_of_cut? {sep : Char} {t a b : Text} (h : cut? sep t = some (a, b)) :
    t = a ++ sep :: b := by
  induction t generalizing a with
  | nil => simp [cut?] at h
  | cons c rest ih =>
    by_cases hc : c = sep
    · simp_all [cut?]
    · simp only [cut?, hc, if_false, Option.map_eq_some_iff, Prod.exists, Prod.mk.injEq] at h
      obtain ⟨x, y, hxy, rfl, rfl⟩ := h
      simp [ih hxy]

theorem notMem_of_cut? {sep : Char} {t a b : Text} (h : cut? sep t = some (a, b)) : sep ∉ a := by
  induction t generalizing a with
  | nil => simp [cut?] at h
  | cons c rest ih =>
    by_cases hc : c = sep
    · simp_all [cut?]
    · simp only [cut?, hc, if_false, Option.map_eq_some_iff, Prod.exists, Prod.mk.injEq] at h
      obtain ⟨x, y, hxy, rfl, rfl⟩ := h
      simp [ih hxy, Ne.symm hc]

/-- A text without the separator ends at the first occurrence behind it. -/
theorem cut?_append {sep : Char} {a : Text} (absent : sep ∉ a) (b : Text) :
    cut? sep (a ++ sep :: b) = some (a, b) := by
  induction a with
  | nil => simp [cut?]
  | cons c a ih =>
    rw [List.mem_cons, not_or] at absent
    simp [cut?, Ne.symm absent.1, ih absent.2]

/-- The parts of a text between the occurrences of `sep`. -/
def split (sep : Char) : Text → List Text
  | [] => [[]]
  | c :: rest =>
    if c = sep then [] :: split sep rest
    else match split sep rest with
      | [] => [[c]]
      | part :: parts => (c :: part) :: parts

theorem split_ne_nil (sep : Char) (t : Text) : split sep t ≠ [] := by
  induction t with
  | nil => simp [split]
  | cons c rest ih =>
    by_cases h : c = sep
    · simp [split, h]
    · simp only [split, h, if_false]
      split <;> simp

/-- The parts hold only characters of the text, and never the separator. -/
theorem mem_of_mem_split {sep c : Char} {t part : Text} (hp : part ∈ split sep t) (hc : c ∈ part) :
    c ∈ t ∧ c ≠ sep := by
  induction t generalizing part with
  | nil => simp_all [split]
  | cons d rest ih =>
    by_cases h : d = sep
    · simp only [split, h, if_true, List.mem_cons] at hp
      rcases hp with rfl | hp
      · simp at hc
      · exact ⟨List.mem_cons_of_mem _ (ih hp hc).1, (ih hp hc).2⟩
    · simp only [split, h, if_false] at hp
      split at hp
      · simp_all
      · rename_i first parts hs
        rcases List.mem_cons.1 hp with rfl | hp
        · rcases List.mem_cons.1 hc with rfl | hc
          · exact ⟨List.mem_cons_self, h⟩
          · have := ih (hs ▸ List.mem_cons_self) hc
            exact ⟨List.mem_cons_of_mem _ this.1, this.2⟩
        · have := ih (hs ▸ List.mem_cons_of_mem _ hp) hc
          exact ⟨List.mem_cons_of_mem _ this.1, this.2⟩

theorem length_le_of_mem_split {sep : Char} {t part : Text} (hp : part ∈ split sep t) :
    part.length ≤ t.length := by
  induction t generalizing part with
  | nil => simp_all [split]
  | cons d rest ih =>
    by_cases h : d = sep
    · simp only [split, h, if_true, List.mem_cons] at hp
      rcases hp with rfl | hp
      · simp
      · exact Nat.le_succ_of_le (ih hp)
    · simp only [split, h, if_false] at hp
      split at hp
      · simp_all
      · rename_i first parts hs
        rcases List.mem_cons.1 hp with rfl | hp
        · exact Nat.succ_le_succ (ih (hs ▸ List.mem_cons_self))
        · exact Nat.le_succ_of_le (ih (hs ▸ List.mem_cons_of_mem _ hp))

/-- A text without the characters of class `p` at its end. -/
def dropTrailing (p : Char → Bool) (t : Text) : Text :=
  (t.reverse.dropWhile p).reverse

/-- The characters of class `p` at the end of a text. -/
def trailing (p : Char → Bool) (t : Text) : Text :=
  (t.reverse.takeWhile p).reverse

theorem dropTrailing_append_trailing (p : Char → Bool) (t : Text) :
    t.dropTrailing p ++ t.trailing p = t := by
  rw [dropTrailing, trailing, ← List.reverse_append, List.takeWhile_append_dropWhile,
    List.reverse_reverse]

/-- The rest of a text that starts with `head`. -/
def dropStart? (head t : Text) : Option Text :=
  if head.isPrefixOf t then some (t.drop head.length) else none

/-- The parts before and after the first occurrence of a non-empty text. -/
def cutAt? (separator : Text) : Text → Option (Text × Text)
  | [] => none
  | c :: rest =>
    match dropStart? separator (c :: rest) with
    | some after => some ([], after)
    | none => (cutAt? separator rest).map fun (a, b) => (c :: a, b)

/-- The parts of a text joined with a separator between each two of them. -/
def joined (separator : Text) (parts : List Text) : Text :=
  separator.intercalate parts

/-! ## Decimal numerals -/

/-- The decimal digits of a natural number. -/
def ofNat (n : Nat) : Text := Nat.toDigits 10 n

/-- The decimal digits of an integer, after a `-` if it is negative. -/
def ofInt : Int → Text
  | .ofNat n => ofNat n
  | .negSucc n => '-' :: ofNat (n + 1)

/-- The number that a non-empty run of decimal digits denotes. -/
def toNat? (t : Text) : Option Nat :=
  if t ≠ [] ∧ t.all Char.isDigit then some (Nat.ofDigitChars 10 t 0) else none

/-- The number that decimal digits after an optional sign denote. -/
def toInt? : Text → Option Int
  | '+' :: digits => (toNat? digits).map Int.ofNat
  | '-' :: digits => (toNat? digits).map fun n => -Int.ofNat n
  | digits => (toNat? digits).map Int.ofNat

end Text

/-! ## Blanks -/

/-- The characters with the Unicode property `White_Space`. -/
def isBlank (c : Char) : Bool :=
  let n := c.toNat
  (9 ≤ n && n ≤ 13) || n == 0x20 || n == 0x85 || n == 0xa0 || n == 0x1680 ||
    (0x2000 ≤ n && n ≤ 0x200a) || n == 0x2028 || n == 0x2029 || n == 0x202f || n == 0x205f ||
    n == 0x3000

/-- A text without the blanks at its two ends. -/
def Text.trim (t : Text) : Text := dropTrailing isBlank (t.dropWhile isBlank)

end JoinSheet
