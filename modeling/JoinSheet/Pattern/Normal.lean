import JoinSheet.Pattern.Basic

/-!
# Normal forms of patterns

Patterns are put together by functions that bring them into a normal form: rows and alternatives are
nested to the right, neighbouring literals are one literal, a set of one character is a literal, and
what all alternatives start with stands before them. How large the automaton of a pattern is depends on
its normal form.

## Main definitions

* `Pattern.ofSet`, `Pattern.row`, `Pattern.choice`, `Pattern.repetition` — the functions.
* `Pattern.parts`, `Pattern.alternatives` — what rows and alternatives consist of.
* `Pattern.minLength?`, `Pattern.maxLength?` — how long the pieces that match may be.
-/

namespace JoinSheet

namespace Pattern

/-! ## Lengths -/

/-- The number of bytes of a code point in UTF-8. -/
def byteCount (n : Nat) : Nat := (Char.ofNat n).utf8Size

/-- The least number of bytes in a piece that matches. There is none if an empty set of characters has a
part in the pattern. -/
def minLength? : Pattern → Option Nat
  | empty | look _ => some 0
  | literal t => some t.utf8Size
  | char set => set.ranges.head?.map fun (first, _) => byteCount first
  | capture _ p => p.minLength?
  | seq p q => p.minLength?.bind fun m => q.minLength?.map (m + ·)
  | alt p q => p.minLength?.bind fun m => q.minLength?.map (min m ·)
  | times p _ min _ => p.minLength?.map (min * ·)

/-- The greatest number of bytes in a piece that matches. There is none if there is no bound, or if an
empty set of characters has a part in the pattern. -/
def maxLength? : Pattern → Option Nat
  | empty | look _ => some 0
  | literal t => some t.utf8Size
  | char set => set.ranges.getLast?.map fun (_, last) => byteCount last
  | capture _ p => p.maxLength?
  | seq p q => p.maxLength?.bind fun m => q.maxLength?.map (m + ·)
  | alt p q => p.maxLength?.bind fun m => q.maxLength?.map (max m ·)
  | times p _ _ max => max.bind fun max => p.maxLength?.map (max * ·)

/-! ## Rows -/

/-- The pattern of one character of a set. -/
def ofSet (set : CharSet) : Pattern :=
  match set.only? with
  | some c => literal [c]
  | none => char set

/-- The parts of a row. -/
def parts : Pattern → List Pattern
  | empty => []
  | seq p q => p :: q.parts
  | p => [p]

/-- A pattern that is no row, before the parts of a row. -/
def before (p q : Pattern) : Pattern :=
  match p, q with
  | p, empty => p
  | literal s, literal t => literal (s ++ t)
  | literal s, seq (literal t) r => seq (literal (s ++ t)) r
  | p, q => seq p q

/-- Patterns in a row. -/
def row (patterns : List Pattern) : Pattern := (patterns.flatMap parts).foldr before empty

/-! ## Alternatives -/

/-- The alternatives of a pattern. -/
def alternatives : Pattern → List Pattern
  | alt p q => p :: q.alternatives
  | p => [p]

/-- Alternatives that are no alternatives themselves, in a pattern. -/
def anyOf : List Pattern → Pattern
  | [] => char .none
  | [p] => p
  | p :: rest => alt p (anyOf rest)

/-- The character that a pattern stands for. -/
def char? : Pattern → Option Char
  | literal [c] => some c
  | _ => none

/-- The set of the characters that a pattern stands for. -/
def set? : Pattern → Option CharSet
  | char set => some set
  | _ => none

/-- Alternatives as one pattern: a set, if all of them are single characters or all of them are
sets. -/
def merge (patterns : List Pattern) : Pattern :=
  match patterns.flatMap alternatives with
  | [p] => p
  | patterns =>
    match patterns.mapM char?, patterns.mapM set? with
    | some chars, _ => ofSet (.unions (chars.map CharSet.single))
    | none, some sets => ofSet (.unions sets)
    | none, none => anyOf patterns

/-- What two lists have in common at their start. -/
def commonStart : List Pattern → List Pattern → List Pattern
  | p :: s, q :: t => if p = q then p :: commonStart s t else []
  | _, _ => []

/-- What some rows have in common at their start. A pattern that is no row has nothing in common with
others. -/
def commonParts : List Pattern → List Pattern
  | [] => []
  | p :: rest =>
    let rows := (p :: rest).map fun p => match p with
      | seq .. => p.parts
      | _ => []
    match rows with
    | [] => []
    | first :: others => others.foldl commonStart first

/-- Alternatives as one pattern, after what they have in common at their start. -/
def choice (patterns : List Pattern) : Pattern :=
  match merge patterns with
  | alt p q =>
    let patterns := (alt p q).alternatives
    match commonParts patterns with
    | [] => alt p q
    | common => row (common ++ [merge (patterns.map fun p => row (p.parts.drop common.length))])
  | p => p

/-! ## Repetitions -/

/-- Repetitions of a pattern. Of a pattern that only matches the empty piece one is enough. -/
def repetition (p : Pattern) (greedy : Bool) (min : Nat) (max : Option Nat) : Pattern :=
  let (min, max) := if p.maxLength? = some 0 then (Nat.min min 1, some ((max.getD 1).min 1))
    else (min, max)
  if max = some 0 then empty
  else if min = 1 ∧ max = some 1 then p
  else times p greedy min max

end Pattern

end JoinSheet
