import JoinSheet.Pattern.Escape

/-!
# Classes between brackets

A class between brackets is a union of characters, ranges and classes, or two such unions combined by
an operator. Classes nest, so they are read with a stack of the open ones.

## Main definitions

* `Bracket.Level` — an open class.
* `Bracket.read` — the class after its opening bracket.
-/

namespace JoinSheet

/-- A part of a pattern with the number of constructs that nest in it. -/
structure Nested (α : Type) where
  value : α
  depth : Nat := 0

/-- The largest depth among some parts. -/
def Nested.maxDepth {α : Type} (parts : List (Nested α)) : Nat :=
  parts.foldl (fun d p => max d p.depth) 0

namespace Bracket

/-- The operators on classes. -/
inductive Operator where
  | inter | diff | symmDiff
  deriving DecidableEq, Repr

/-- The operator that a doubled character is. -/
def operator? : Text → Option Operator
  | '&' :: '&' :: _ => some .inter
  | '-' :: '-' :: _ => some .diff
  | '~' :: '~' :: _ => some .symmDiff
  | _ => none

/-- The result of an operator. -/
def Operator.apply : Operator → CharSet → CharSet → CharSet
  | inter => CharSet.inter
  | diff => CharSet.diff
  | symmDiff => CharSet.symmDiff

/-- An open class: the operand and operator before the current union, and the members of the union,
the last one first. -/
structure Level where
  negated : Bool
  left : Option (Nested CharSet × Operator) := none
  items : List (Nested CharSet) := []

namespace Level

/-- The level with one more member. -/
def add (l : Level) (item : Nested CharSet) : Level := { l with items := item :: l.items }

/-- The current union. -/
def union (l : Level) : Nested CharSet :=
  match l.items with
  | [] => ⟨.none, 0⟩
  | [only] => only
  | items => ⟨.unions (items.map Nested.value), Nested.maxDepth items + 1⟩

/-- All of a level: the current union, combined with what precedes it. -/
def whole (f : PatternFlags) (l : Level) : Nested CharSet :=
  match l.left with
  | none => l.union
  | some (left, operator) =>
    ⟨operator.apply (f.fold left.value) (f.fold l.union.value), max left.depth l.union.depth + 1⟩

/-- The level after an operator. -/
def operate (f : PatternFlags) (l : Level) (operator : Operator) : Level :=
  { l with left := some (l.whole f, operator), items := [] }

/-- The class of a level that is closed. -/
def close? (f : PatternFlags) (l : Level) : Option (Nested CharSet) :=
  let whole := l.whole f
  (f.close l.negated whole.value).map fun set => ⟨set, whole.depth + 1⟩

end Level

/-! ## Members -/

/-- A character, or an escape. -/
def readAtom (f : PatternFlags) : Text → Option (PatternAtom × Text)
  | [] => none
  | '\\' :: rest => PatternAtom.readEscape f rest
  | c :: rest => some (.char c false, rest)

/-- The character that an atom is. Without Unicode it may not lie beyond ASCII. -/
def char? (f : PatternFlags) : PatternAtom → Option Char
  | .char c _ => if f.unicode || c ≤ '\x7f' then some c else none
  | _ => none

/-- The set that an atom is. -/
def set? (f : PatternFlags) : PatternAtom → Option CharSet
  | .set s => some s
  | .look _ => none
  | a => (char? f a).map CharSet.single

/-- The character that is looked at after a hyphen to tell whether a range follows. Blanks are looked
through, and so is the sign of the first comment, but the comment itself is not. -/
def peek? (f : PatternFlags) (t : Text) : Option Char :=
  if f.verbose then
    match t.dropWhile isBlank with
    | '#' :: rest => (rest.dropWhile isBlank).head?
    | rest => rest.head?
  else t.head?

/-- A range, or a single atom. A hyphen before a closing bracket or another hyphen makes no range. -/
def readRange (f : PatternFlags) (t : Text) : Option (Nested CharSet × Text) := do
  let (first, rest) ← readAtom f t
  let single := (set? f first).map fun s => ((⟨s, 0⟩ : Nested CharSet), f.skip rest)
  match f.skip rest with
  | [] => none
  | '-' :: more =>
    let next := peek? f more
    if next = some ']' ∨ next = some '-' then single
    else
      let (last, rest) ← readAtom f (f.skip more)
      let a ← char? f first
      let b ← char? f last
      if a ≤ b then some (⟨.range a b, 0⟩, rest) else none
  | _ => single

/-- A class of ASCII by its name between colons, after the opening bracket. -/
def readNamed (f : PatternFlags) (t : Text) : Option (Nested CharSet × Text) := do
  let rest ← Text.dropStart? ":" t
  let (negated, rest) := match rest with
    | '^' :: rest => (true, rest)
    | rest => (false, rest)
  let (name, rest) ← Text.cut? ':' rest
  let rest ← Text.dropStart? "]" rest
  let set ← f.close negated (← CharSet.ofAsciiName? name)
  return (⟨set, 0⟩, rest)

/-! ## Classes -/

/-- Hyphens at the start of a class, as members. -/
def readHyphens (f : PatternFlags) (l : Level) (t : Text) : Level × Text :=
  match _h : f.skip t with
  | '-' :: rest => readHyphens f (l.add ⟨.single '-', 0⟩) rest
  | t => (l, t)
termination_by t.length
decreasing_by
  have := f.length_skip_le t
  simp_all only [List.length_cons]; omega

/-- The start of a class after its opening bracket. Hyphens are members there, and so is a closing
bracket that comes first. -/
def openLevel (f : PatternFlags) (t : Text) : Level × Text :=
  let (negated, rest) := match f.skip t with
    | '^' :: rest => (true, rest)
    | rest => (false, rest)
  let (l, rest) := readHyphens f { negated } rest
  match l.items, rest with
  | [], ']' :: rest => (l.add ⟨.single ']', 0⟩, rest)
  | _, _ => (l, rest)

/-- Whether a class under its name may start here: the name is valid and, without Unicode, it is not
negated. A negated one that is refused is no class of another kind. -/
def startsNamed (t : Text) : Bool := (readNamed {} t).isSome

/-- The rest of a class with some open levels, the innermost first. Every step takes a character, so
`fuel` is the number of characters. -/
def readLevels (f : PatternFlags) : Nat → Level → List Level → Text →
    Option (Nested CharSet × Text)
  | 0, _, _, _ => none
  | fuel + 1, l, outer, t =>
    match f.skip t with
    | [] => none
    | '[' :: rest =>
      if startsNamed rest then do
        let (named, rest) ← readNamed f rest
        readLevels f fuel (l.add named) outer rest
      else
        let (inner, rest) := openLevel f rest
        readLevels f fuel inner (l :: outer) rest
    | ']' :: rest => do
      let closed ← l.close? f
      match outer with
      | [] => some (closed, rest)
      | l :: outer => readLevels f fuel (l.add closed) outer rest
    | t =>
      match operator? t with
      | some operator => readLevels f fuel (l.operate f operator) outer (t.drop 2)
      | none => do
        let (item, rest) ← readRange f t
        readLevels f fuel (l.add item) outer rest

/-- The class after its opening bracket, and what follows it. -/
def read (f : PatternFlags) (t : Text) : Option (Nested CharSet × Text) :=
  let (l, rest) := openLevel f t
  readLevels f (t.length + 1) l [] rest

end Bracket

end JoinSheet
