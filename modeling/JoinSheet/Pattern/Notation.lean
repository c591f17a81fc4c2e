import JoinSheet.Pattern.Automaton
import JoinSheet.Pattern.Bracket

/-!
# The notation of patterns

A pattern is read from left to right with a stack of the groups that are open. What is refused is
refused at once; a pattern that is read is bounded in how deeply it nests and in how large its automata
are.

## Main definitions

* `Pattern.Level` — an open group.
* `Pattern.read?` — the pattern that a text spells.
* `Pattern.search?` — whether a text contains a match of the pattern that another text spells.
-/

namespace JoinSheet

namespace Pattern

/-! ## Groups -/

/-- An open group: the alternatives before the current one and the parts of the current one, the last
of each first. A change of flags is a part that matches nothing and cannot be repeated. -/
structure Level where
  alternatives : List (Nested Pattern) := []
  parts : List (Option (Nested Pattern)) := []

namespace Level

/-- The level with one more part. -/
def add (l : Level) (part : Nested Pattern) : Level := { l with parts := some part :: l.parts }

/-- The current alternative. -/
def alternative (l : Level) : Nested Pattern :=
  let parts := l.parts.map fun part => part.getD ⟨empty, 0⟩
  match parts with
  | [] => ⟨empty, 0⟩
  | [only] => only
  | parts => ⟨row (parts.reverse.map Nested.value), Nested.maxDepth parts + 1⟩

/-- The level with the current alternative finished. -/
def alternate (l : Level) : Level := { alternatives := l.alternative :: l.alternatives }

/-- All alternatives. -/
def whole (l : Level) : Nested Pattern :=
  match l.alternatives with
  | [] => l.alternative
  | before =>
    let alternatives := l.alternative :: before
    ⟨choice (alternatives.reverse.map Nested.value), Nested.maxDepth alternatives + 1⟩

end Level

/-- What has been read: the current group, the groups around it with the flags that return when each of
them ends and the number that its inner group keeps its piece under, the flags in force, how many groups
keep their pieces, the names of groups, and the rest of the text. -/
structure Reader where
  level : Level := {}
  outer : List (Level × PatternFlags × Option Nat) := []
  flags : PatternFlags := {}
  captures : Nat := 0
  names : List Text := []
  rest : Text

namespace Reader

/-- The reader with one more part, going on after it. -/
def add (r : Reader) (part : Nested Pattern) (rest : Text) : Reader :=
  { r with level := r.level.add part, rest }

/-- The reader within a new group, which keeps its piece if it has a number. -/
def enter (r : Reader) (flags : PatternFlags) (index : Option Nat) (rest : Text) : Reader :=
  { r with level := {}, outer := (r.level, r.flags, index) :: r.outer, flags, rest }

/-- The reader within a new group that keeps its piece. -/
def enterCapture (r : Reader) (rest : Text) : Reader :=
  { r.enter r.flags (some (r.captures + 1)) rest with captures := r.captures + 1 }

/-- The reader after the current group. -/
def close? (r : Reader) (rest : Text) : Option Reader :=
  match r.outer with
  | [] => none
  | (level, flags, index) :: outer =>
    let group := r.level.whole
    let value := match index with
      | none => group.value
      | some index => capture index group.value
    some { r with level := level.add ⟨value, group.depth + 1⟩, outer, flags, rest }

/-! ## Starts of groups -/

/-- The characters that a name of a group may start with. -/
def nameStart : CharSet :=
  .unions [.single '_', Unicode.alphabetic, Unicode.recentAlphabetic]

/-- The characters that a name of a group may go on with. -/
def nameContinue : CharSet :=
  .unions [nameStart, .ofRanges [('.', '.'), ('[', '['), (']', ']')],
    Unicode.inCategories ["Nd", "Nl", "No"], Unicode.recentNumbers]

/-- The reader within a group with a name. No two groups share a name. -/
def openNamed? (r : Reader) (t : Text) : Option Reader := do
  let (name, rest) ← t.cut? '>'
  let valid : Bool := match name with
    | [] => false
    | c :: more => nameStart.mem c && more.all nameContinue.mem
  if valid && !r.names.contains name then
    return { r.enterCapture rest with names := name :: r.names }
  else none

/-- The reader after the start of a group, or after a change of flags that has the form of one. -/
def group? (r : Reader) (t : Text) : Option Reader :=
  let t := r.flags.skip t
  let after (start : String) : Option Text := Text.dropStart? start t
  if (after "?=" <|> after "?!" <|> after "?<=" <|> after "?<!").isSome then none
  else match after "?P<" <|> after "?<", after "?" with
    | some rest, _ => r.openNamed? rest
    | none, some rest => do
      let (flags, stop, rest) ← r.flags.readChanges [] rest
      if stop = ':' then return r.enter flags none rest
      else return { r with level := { r.level with parts := none :: r.level.parts }, flags, rest }
    | none, none => some (r.enterCapture t)

/-! ## Repetitions -/

/-- The last part of the level repeated. A question mark after it changes whether it is greedy. -/
def repeat? (r : Reader) (min : Nat) (max : Option Nat) (rest : Text) : Option Reader :=
  match r.level.parts with
  | some part :: parts =>
    let (greedy, rest) := match rest with
      | '?' :: rest => (r.flags.swapGreed, rest)
      | rest => (!r.flags.swapGreed, rest)
    let repeated : Nested Pattern := ⟨repetition part.value greedy min max, part.depth + 1⟩
    some { r with level := { r.level with parts := some repeated :: parts }, rest }
  | _ => none

/-- The digits at the start of a text, blanks skipped after each, and what follows. -/
def takeDigits (f : PatternFlags) (t : Text) : Text × Text :=
  match t with
  | [] => ([], [])
  | c :: rest =>
    if c.isDigit then
      let (digits, rest) := takeDigits f (f.skip rest)
      (c :: digits, rest)
    else ([], t)
termination_by t.length
decreasing_by
  have := f.length_skip_le rest
  simp only [List.length_cons]; omega

/-- The largest number of repetitions that can be written. -/
def maxCount : Nat := 4294967295

/-- A number of repetitions with blanks around it, and what follows. -/
def readCount (f : PatternFlags) (t : Text) : Option (Nat × Text) := do
  let (digits, rest) := takeDigits f (t.dropWhile isBlank)
  let n ← Text.toNat? digits
  if n ≤ maxCount then return (n, f.skip (rest.dropWhile isBlank)) else none

/-- A repetition with its bounds between braces, after the opening one. -/
def counted? (r : Reader) (t : Text) : Option Reader := do
  let f := r.flags
  let (min, rest) ← readCount f (f.skip t)
  let (max, rest) ← match rest with
    | ',' :: rest =>
      match f.skip rest with
      | '}' :: _ => some (none, f.skip rest)
      | rest => (readCount f rest).map fun (max, rest) => (some max, rest)
    | rest => some (some min, rest)
  let rest ← Text.dropStart? ['}'] rest
  if max.all (min ≤ ·) then r.repeat? min max (f.skip rest) else none

/-! ## Reading -/

/-- The pattern of an atom. -/
def atomPattern? (f : PatternFlags) : PatternAtom → Option Pattern
  | .char c isByte => (f.literal? c isByte).map ofSet
  | .set s => some (ofSet s)
  | .look l => some (.look l)

/-- The reader after the next construct, which starts with `c`. -/
def step? (r : Reader) (c : Char) (rest : Text) : Option Reader :=
  let f := r.flags
  let leaf (p : Pattern) : Reader := r.add ⟨p, 0⟩ rest
  match c with
  | '(' => r.group? rest
  | ')' => r.close? rest
  | '|' => some { r with level := r.level.alternate, rest }
  | '[' => (Bracket.read f rest).map fun (set, rest) => r.add ⟨ofSet set.value, set.depth⟩ rest
  | '?' => r.repeat? 0 (some 1) rest
  | '*' => r.repeat? 0 none rest
  | '+' => r.repeat? 1 none rest
  | '{' => r.counted? rest
  | '.' => f.dot?.map fun set => leaf (ofSet set)
  | '^' => some (leaf (.look (if f.multiLine then .lineStart f.crlf else .textStart)))
  | '$' => some (leaf (.look (if f.multiLine then .lineEnd f.crlf else .textEnd)))
  | '\\' => do
    let (atom, rest) ← PatternAtom.readEscape f rest
    return r.add ⟨← atomPattern? f atom, 0⟩ rest
  | c => (f.literal? c false).map fun set => leaf (ofSet set)

/-- The pattern of what has been read and of the rest. Every step takes a character, so `fuel` is the
number of characters. -/
def run : Nat → Reader → Option (Nested Pattern)
  | 0, _ => none
  | fuel + 1, r =>
    match r.flags.skip r.rest with
    | [] => if r.outer.isEmpty then some r.level.whole else none
    | c :: rest => (r.step? c rest).bind (run fuel)

end Reader

/-! ## Bounds -/

/-- How deeply a pattern may nest. -/
def maxDepth : Nat := 250

/-- The pattern that a text spells. -/
def read? (t : Text) : Option Pattern := do
  let read ← Reader.run (t.length + 1) { rest := t }
  if read.depth ≤ maxDepth ∧ read.value.fits then return read.value else none

/-- Whether a text contains a match of a pattern, if the pattern is valid. -/
def search? (pattern text : Text) : Option Bool := (read? pattern).map fun p => p.occursIn text

end Pattern

end JoinSheet
