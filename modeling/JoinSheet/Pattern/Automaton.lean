import JoinSheet.Pattern.Normal
import JoinSheet.Text.Utf8
import Std.Data.HashMap

/-!
# Sizes of automata

A pattern is searched for with two automata over bytes, one that reads texts forwards and one that reads
them backwards. Only how large they are matters here: a pattern is refused if one of them is too large.
Repetitions are written out, so the size is counted in one pass that stops at the bound.

States for sets of characters are shared where they read the same bytes and go on alike. States that can
be shared are looked up in tables of limited size in which a newer state takes the place of an older one
with the same hash, so a few states are made twice.

## Main definitions

* `AutomatonSize`, `Growth` — sizes, and what makes automata grow.
* `Pattern.growth` — how a pattern makes an automaton grow.
* `Pattern.fits` — whether both automata of a pattern are small enough.
-/

namespace JoinSheet

/-- The size of an automaton: the number of its states, and the number of bytes that their transitions
and alternatives take. -/
structure AutomatonSize where
  states : Nat := 0
  details : Nat := 0
  deriving DecidableEq, Repr

namespace AutomatonSize

/-- The number of bytes that a state takes without its transitions and alternatives. -/
def stateBytes : Nat := 32

/-- The number of bytes that a transition takes in a state with any number of them. -/
def transitionBytes : Nat := 8

/-- The number of bytes that an alternative takes in a state that only chooses where to go on. -/
def alternativeBytes : Nat := 4

/-- The number of bytes that an automaton may take. -/
def maxBytes : Nat := 10485760

/-- The number of bytes that an automaton takes. -/
def bytes (s : AutomatonSize) : Nat := stateBytes * s.states + s.details

/-- The size if it is allowed. -/
def bounded? (s : AutomatonSize) : Option AutomatonSize := if s.bytes ≤ maxBytes then some s else none

end AutomatonSize

/-- What makes an automaton grow: the size after it from the size before, if it is allowed. -/
abbrev Growth := AutomatonSize → Option AutomatonSize

namespace Growth

/-- A state without transitions of its own. -/
def state : Growth := fun s => { s with states := s.states + 1 }.bounded?

/-- Transitions of a state. -/
def transitions (n : Nat) : Growth := fun s =>
  { s with details := s.details + n * AutomatonSize.transitionBytes }.bounded?

/-- Alternatives of a state. -/
def alternatives (n : Nat) : Growth := fun s =>
  { s with details := s.details + n * AutomatonSize.alternativeBytes }.bounded?

/-- One growth after the other. -/
def andThen (g h : Growth) : Growth := fun s => (g s).bind h

/-- Some growths after each other. -/
def all (gs : List Growth) : Growth := fun s => gs.foldlM (fun s g => g s) s

/-- A growth any number of times. -/
def replicate (g : Growth) : Nat → Growth
  | 0, s => some s
  | n + 1, s =>
    match g s with
    | none => none
    | some s => g.replicate n s

/-! ## Repetitions and alternatives -/

/-- At least one piece: a state at the end chooses whether there is another one. -/
def oneOrMore (g : Growth) : Growth := all [g, state, alternatives 2]

/-- A number of pieces, or a state that goes on without one. -/
def exactly (g : Growth) (n : Nat) : Growth := if n = 0 then state else g.replicate n

/-- Any number of pieces from some number on. If a piece can be empty, a further choice comes first. -/
def atLeast (g : Growth) (canBeEmpty : Bool) (min : Nat) : Growth :=
  if min = 0 then
    if canBeEmpty then all [g, state, state, state, alternatives 4]
    else all [state, g, alternatives 2]
  else if min = 1 then g.oneOrMore
  else andThen (g.exactly (min - 1)) g.oneOrMore

/-- One piece or none. -/
def optional (g : Growth) : Growth := all [state, g, state, alternatives 2]

/-- A number of pieces between bounds. -/
def between (g : Growth) (min max : Nat) : Growth :=
  if min = max then g.exactly min
  else all [g.exactly min, state, replicate (all [state, g, alternatives 2]) (max - min)]

/-- A number of pieces between bounds, of which the upper one may be missing. -/
def times (g : Growth) (canBeEmpty : Bool) (min : Nat) (max : Option Nat) : Growth :=
  match max with
  | none => g.atLeast canBeEmpty min
  | some max => if min = 0 ∧ max = 1 then g.optional else g.between min max

/-- Alternatives: a state chooses between them, and they meet in another one. -/
def anyOf : List Growth → Growth
  | [] => state
  | [g] => g
  | g :: h :: rest =>
    all [g, h, state, state, alternatives 2, all (rest.map fun g => all [g, alternatives 1])]

/-! ## Sets of characters -/

/-- A transition on a range of bytes to the state with a number. -/
abbrev Transition := ByteRange × Nat

/-- States by their place in a table, each with its transitions and its number. -/
abbrev KnownStates := Std.HashMap Nat (List Transition × Nat)

/-- Growth that knows which states can be shared. -/
abbrev SharingGrowth := StateT (KnownStates × AutomatonSize) Option

/-- The place that a state with some numbers in it has in a table with room for `room` states. -/
def place (room : Nat) (numbers : List Nat) : Nat :=
  let hash : UInt64 := numbers.foldl (fun h n => (h ^^^ UInt64.ofNat n) * 1099511628211)
    14695981039346656037
  hash.toNat % room

/-- The number of the state with these transitions: the one at its place in the table, or else a new one
that takes the place. -/
def share (place : Nat) (transitions : List Transition) (new : Growth) : SharingGrowth Nat :=
  fun (known, s) =>
    match known[place]?.filter fun state => state.1 = transitions with
    | some (_, number) => some (number, known, s)
    | none => (new s).map fun grown =>
        (s.states, known.insert place (transitions, s.states), grown)

/-- A state that is being made: its transitions, and the range of a further one that leads to a state
which is being made itself. -/
structure Unfinished where
  transitions : List Transition := []
  last : ByteRange

/-- The first of some states each of which leads to the next one, and the last one to `target`. -/
def finish (target : Nat) : List Unfinished → SharingGrowth Nat
  | [] => pure target
  | state :: rest => do
    let next ← finish target rest
    let transitions := state.transitions ++ [(state.last, next)]
    share (place 10000 (transitions.flatMap fun (range, next) => [range.first, range.last, next]))
      transitions (all [Growth.state, Growth.transitions transitions.length])

/-- The states that are being made after one more sequence of ranges of bytes. Sequences come in
increasing order, so the states after the first difference are finished. -/
def addSequence (target : Nat) : List ByteRange → List Unfinished → SharingGrowth (List Unfinished)
  | range :: sequence, state :: rest => do
    if range = state.last then return state :: (← addSequence target sequence rest)
    else
      let next ← finish target rest
      return { transitions := state.transitions ++ [(state.last, next)], last := range } ::
        sequence.map fun range => { last := range }
  | sequence, _ => return sequence.map fun range => { last := range }

/-- A set of characters of which the bytes are read in order, with the states for what follows the first
bytes shared. -/
def setForwards (chars : CharSet) : Growth := fun s => do
  let target := s.states
  let s ← state s
  let all : SharingGrowth Nat := do
    finish target (← chars.sequences.foldlM (fun states sequence => addSequence target sequence states) [])
  let (_, _, s) ← all.run (∅, s)
  return s

/-- The state before a range of bytes that is read backwards, where `next` follows. -/
def rangeBackwards (next : Nat) (range : ByteRange) : SharingGrowth Nat :=
  share (place 1000 [next, range.first, range.last]) [(range, next)] state

/-- A set of characters of which the bytes are read from the last to the first. A state chooses between
the sequences, and states for the same last bytes are shared. -/
def setBackwards (chars : CharSet) : Growth := fun s => do
  let target := s.states + 1
  let s ← all [state, state] s
  let each : SharingGrowth Unit := chars.sequences.forM fun sequence => do
    let _ ← sequence.foldlM rangeBackwards target
    let (known, s) ← get
    set (known, ← alternatives 1 s)
  let (_, _, s) ← each.run (∅, s)
  return s

/-- A set of characters. -/
def charSet (backwards : Bool) (chars : CharSet) : Growth :=
  if chars.isAscii then all [state, state, transitions chars.ranges.length]
  else if backwards then setBackwards chars
  else setForwards chars

/-! ## Literals -/

/-- The states of a tree of words, with those below them, up to a depth. Where words end, others may go
on: the transitions before and after such a word are kept apart, and a state chooses between them and
the end. -/
def tree : Nat → List (List Nat) → Growth
  | 0, _, s => some s
  | depth + 1, words, s =>
    let words := if words.head? = some [] then [] :: words.dropWhile (· = []) else words
    let groups := (words.splitOnP (· = [])).map fun words =>
      let firsts := (words.filterMap List.head?).eraseDups
      firsts.map fun b => (words.filter (·.head? = some b)).map List.tail
    let below := groups.flatten.filter fun tails => tails.any (· ≠ [])
    let chunks := (groups.map List.length).filter (· ≠ 0)
    all ([all (below.map (tree depth)), state,
      alternatives (chunks.length + (groups.length - 1))] ++
      chunks.map fun n => all [state, transitions (if n = 1 then 0 else n)]) s

/-- At least two literals as alternatives, by their bytes in the order in which they are read. -/
def literals (words : List (List Nat)) : Growth :=
  all [state, tree ((words.map List.length).foldl max 0) words]

end Growth

namespace Pattern

/-- The bytes of a pattern that is a literal, in the order in which they are read. -/
def literalBytes? (backwards : Bool) : Pattern → Option (List Nat)
  | literal t =>
    let bytes := t.flatMap fun c => Utf8.bytes c.toNat
    some (if backwards then bytes.reverse else bytes)
  | _ => none

/-- How a pattern makes an automaton grow, given what its alternatives do. -/
def growthOf (backwards : Bool) (p : Pattern) (growths : List Growth) : Growth :=
  match p, p.alternatives.mapM (literalBytes? backwards) with
  | alt .., some words => Growth.literals words
  | _, _ => Growth.anyOf growths

/-- How the alternatives of a pattern make an automaton grow. -/
def growths (backwards : Bool) : Pattern → List Growth
  | empty | look _ => [Growth.state]
  | literal t => [Growth.state.replicate t.utf8Size]
  | char set => [Growth.charSet backwards set]
  | capture _ p =>
    let inner := growthOf backwards p (p.growths backwards)
    [if backwards then inner else Growth.all [Growth.state, inner, Growth.state]]
  | seq p q =>
    let first := growthOf backwards p (p.growths backwards)
    let second := growthOf backwards q (q.growths backwards)
    [if backwards then second.andThen first else first.andThen second]
  | alt p q => growthOf backwards p (p.growths backwards) :: q.growths backwards
  | times p _ min max =>
    let canBeEmpty := p.minLength?.all (· = 0)
    [(growthOf backwards p (p.growths backwards)).times canBeEmpty min max]

/-- How a pattern makes an automaton grow. -/
def growth (backwards : Bool) (p : Pattern) : Growth :=
  growthOf backwards p (p.growths backwards)

/-- Whether an assertion has to hold where a match starts, or where it ends. -/
def asserts (l : Look) (atEnd : Bool) : Pattern → Bool
  | empty | literal _ | char _ => false
  | look other => l = other
  | capture _ p => p.asserts l atEnd
  | seq p q =>
    if atEnd then q.asserts l atEnd || (q.maxLength? = some 0 && p.asserts l atEnd)
    else p.asserts l atEnd || (p.maxLength? = some 0 && q.asserts l atEnd)
  | alt p q => p.asserts l atEnd && q.asserts l atEnd
  | times p _ min _ => min ≠ 0 && p.asserts l atEnd

/-- The size of the automaton for a pattern, if it is allowed. Unless matches start where the text does,
or end where it does if it is read backwards, states come first that skip any bytes. A state accepts.
Read forwards, the whole match is kept like a group. -/
def automatonSize? (backwards : Bool) (p : Pattern) : Option AutomatonSize :=
  let anchored := p.asserts (if backwards then .textEnd else .textStart) backwards
  let skip := if anchored then Growth.state
    else Growth.all [Growth.state, Growth.state, Growth.state, Growth.transitions 1,
      Growth.alternatives 2]
  let whole := if backwards then p.growth true
    else Growth.all [Growth.state, p.growth false, Growth.state]
  Growth.all [skip, whole, Growth.state] {}

/-- The number of literals from which on they are searched for without an automaton. -/
def manyLiterals : Nat := 3000

/-- Whether the automata of a pattern are small enough, or are not needed. -/
def fits (p : Pattern) : Bool :=
  let literals := p.alternatives.mapM (literalBytes? false)
  literals.any (manyLiterals ≤ ·.length) ||
    ((p.automatonSize? false).isSome && (p.automatonSize? true).isSome)

end Pattern

end JoinSheet
