import JoinSheet.Pattern.Look

/-!
# Patterns

A pattern describes pieces of texts. Whether a text contains such a piece is found out by following
all possible ends at once: a set of places in the text is a number whose bits are the places, and each
part of a pattern sends the places where it may start to the places where it may end.

## Main definitions

* `Pattern` — patterns.
* `Walk`, `Pattern.on` — a pattern laid over a text.
* `Walk.reach` — the places that a walk can end at.
* `Pattern.occursIn` — whether a text contains a piece that matches.
-/

namespace JoinSheet

/-- Patterns for pieces of texts. -/
inductive Pattern where
  | empty
  /-- A text that stands for itself. -/
  | literal (t : Text)
  /-- One character of a set. -/
  | char (set : CharSet)
  | look (l : Look)
  /-- A group that keeps the piece it matches, with its number. -/
  | capture (index : Nat) (p : Pattern)
  | seq (p q : Pattern)
  | alt (p q : Pattern)
  /-- At least `min` and at most `max` pieces in a row, any number of them without a `max`; as many or,
  if not `greedy`, as few of them as possible. -/
  | times (p : Pattern) (greedy : Bool) (min : Nat) (max : Option Nat)
  deriving DecidableEq

/-- A set of places, by the bits of a number. -/
abbrev Places := Nat

/-- A pattern laid over a text. -/
inductive Walk where
  /-- Staying at one of some places. -/
  | stay (places : Places)
  /-- Going over the character at one of some places. -/
  | step (places : Places)
  | seq (v w : Walk)
  | alt (v w : Walk)
  | times (w : Walk) (min : Nat) (max : Option Nat)

/-- The places with the given bits, the lowest first. -/
def Places.ofBits : List Bool → Places
  | [] => 0
  | b :: rest => 2 * ofBits rest + b.toNat

/-- All places of a text, its end included. -/
def Places.all (t : Text) : Places := Nat.pow 2 (t.length + 1) - 1

namespace Pattern

/-- Whether an assertion holds at each place of a text, given the character before. -/
def looks (l : Look) (before : Option Char) : Text → List Bool
  | [] => [l.holds before none]
  | c :: rest => l.holds before (some c) :: looks l (some c) rest

/-- A pattern laid over a text. What a group keeps and how much a repetition takes have no part in
whether there is a match. -/
def on (t : Text) : Pattern → Walk
  | empty => .stay (Places.all t)
  | literal l =>
    l.foldr (fun c w => .seq (.step (Places.ofBits (t.map (· == c)))) w) (.stay (Places.all t))
  | char set => .step (Places.ofBits (t.map set.mem))
  | look l => .stay (Places.ofBits (looks l none t))
  | capture _ p => p.on t
  | seq p q => .seq (p.on t) (q.on t)
  | alt p q => .alt (p.on t) (q.on t)
  | times p _ min max => .times (p.on t) min max

end Pattern

namespace Walk

/-- A function applied `n` times, or until nothing changes. -/
def iterate (f : Places → Places) : Nat → Places → Places
  | 0, s => s
  | n + 1, s =>
    let next := f s
    if next = s then s else iterate f n next

/-- The places that a walk can end at, from a set of places to start from, in a text with `places`
places. As the sets of further pieces only grow, no more of them than there are places matter. -/
def reach (places : Nat) : Walk → Places → Places
  | stay places, s => s &&& places
  | step places, s => (s &&& places) <<< 1
  | seq v w, s => w.reach places (v.reach places s)
  | alt v w, s => v.reach places s ||| w.reach places s
  | times w min max, s =>
    let further := (max.map (· - min)).getD places
    iterate (fun s => s ||| w.reach places s) (further.min places)
      (iterate (w.reach places) min s)

end Walk

/-- Whether a text contains a piece that matches a pattern. -/
def Pattern.occursIn (p : Pattern) (t : Text) : Bool :=
  (p.on t).reach (t.length + 1) (Places.all t) ≠ 0

end JoinSheet
