import JoinSheet.Text.Basic

/-!
# Sets of characters

A set of characters is written down by its edges: the code points, in increasing order, at which
membership begins and ends in turn. Two sets are combined by walking along the edges of both; sets
with the same members have the same edges, as no set holds a surrogate.

## Main definitions

* `CharSet`, `CharSet.mem` — sets and membership.
* `CharSet.combine` — the set of which membership is a function of membership in two others.
* `CharSet.ranges` — the ranges of code points that a set consists of.
* `CharSet.closure` — a set with the characters that are linked to its members.
-/

namespace JoinSheet

/-- A set of characters, by the code points at which membership begins and ends in turn. -/
structure CharSet where
  edges : List Nat := []
  deriving DecidableEq, Repr

namespace CharSet

/-! ## Membership -/

/-- Whether a set holds the code point `n`, by its edges after some place, where `inside` tells
whether it holds what lies there. -/
def memFrom (inside : Bool) : List Nat → Nat → Bool
  | [], _ => inside
  | edge :: rest, n => if n < edge then inside else memFrom (!inside) rest n

/-- Whether a character belongs to a set. -/
def mem (s : CharSet) (c : Char) : Bool := memFrom false s.edges c.toNat

/-- The empty set. -/
def none : CharSet := {}

/-- All characters: the code points without the surrogates. -/
def all : CharSet := ⟨[0, 0xd800, 0xe000, 0x110000]⟩

/-! ## Combinations -/

/-- An edge before further ones, if there is a change at it. -/
def edgeIf (changes : Bool) (edge : Nat) (rest : List Nat) : List Nat :=
  if changes then edge :: rest else rest

/-- The edges of a combination after some place, where `a` and `b` tell whether the two sets hold what
lies there. -/
def combineFrom (f : Bool → Bool → Bool) (a b : Bool) : List Nat → List Nat → List Nat
  | [], [] => []
  | d :: s, [] => edgeIf (f a b != f (!a) b) d (combineFrom f (!a) b s [])
  | [], e :: t => edgeIf (f a b != f a !b) e (combineFrom f a (!b) [] t)
  | d :: s, e :: t =>
    if d < e then edgeIf (f a b != f (!a) b) d (combineFrom f (!a) b s (e :: t))
    else if e < d then edgeIf (f a b != f a !b) e (combineFrom f a (!b) (d :: s) t)
    else edgeIf (f a b != f (!a) !b) d (combineFrom f (!a) (!b) s t)
termination_by s t => s.length + t.length

/-- The set that holds a character if `f` says so of its membership in two sets. What is in neither of
them may not be in the combination. -/
def combine (f : Bool → Bool → Bool) (s t : CharSet) : CharSet :=
  ⟨combineFrom f false false s.edges t.edges⟩

/-- The members of either set. -/
def union (s t : CharSet) : CharSet := combine or s t

/-- The members of both sets. -/
def inter (s t : CharSet) : CharSet := combine and s t

/-- The members of the first set that the second one lacks. -/
def diff (s t : CharSet) : CharSet := combine (fun a b => a && !b) s t

/-- The members of exactly one of two sets. -/
def symmDiff (s t : CharSet) : CharSet := combine bne s t

/-- The characters that a set lacks. -/
def compl (s : CharSet) : CharSet := all.diff s

/-- The members of some sets. -/
def unions (sets : List CharSet) : CharSet := sets.foldr union none

/-! ## Ranges -/

/-- The characters between two, both included. -/
def range (first last : Char) : CharSet := inter ⟨[first.toNat, last.toNat + 1]⟩ all

/-- The set of one character. -/
def single (c : Char) : CharSet := ⟨[c.toNat, c.toNat + 1]⟩

/-- The characters of some ranges. -/
def ofRanges (bounds : List (Char × Char)) : CharSet := unions (bounds.map fun (a, b) => range a b)

/-- The ranges between edges: the first and the last code point of each. -/
def rangesOf : List Nat → List (Nat × Nat)
  | first :: next :: rest => (first, next - 1) :: rangesOf rest
  | _ => []

/-- The ranges of code points that a set consists of, in increasing order. -/
def ranges (s : CharSet) : List (Nat × Nat) := rangesOf s.edges

/-- The only member of a set that has just one. -/
def only? (s : CharSet) : Option Char :=
  match s.edges with
  | [first, next] => if next = first + 1 then some (Char.ofNat first) else Option.none
  | _ => Option.none

/-- The characters of ASCII. -/
def ascii : CharSet := ⟨[0, 128]⟩

/-- Whether all members are characters of ASCII. -/
def isAscii (s : CharSet) : Bool := s.edges.all (· ≤ 128)

/-! ## Closures -/

/-- A set with the characters that are linked to its members. Each link is a character and the
representative of all characters that are linked to each other; representatives link to nothing. -/
def closure (links : List (Char × Char)) (s : CharSet) : CharSet :=
  let met := unions ((links.filter fun (c, r) => s.mem c || s.mem r).map fun (_, r) => single r)
  s.union (met.union (unions ((links.filter fun (_, r) => met.mem r).map fun (c, _) => single c)))

end CharSet

end JoinSheet
