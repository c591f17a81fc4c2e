import JoinSheet.Pattern.ClassName

/-!
# Assertions

An assertion holds at a place of a text or not, and whether it does depends on the characters before
and after the place alone.

## Main definitions

* `Look`, `Look.holds` — assertions and what they mean.
-/

namespace JoinSheet

/-- Edges of words. -/
inductive WordEdge where
  | boundary | noBoundary | start | stop | startHalf | stopHalf
  deriving DecidableEq, Repr

/-- Assertions on a place in a text. -/
inductive Look where
  | textStart
  | textEnd
  /-- The start of a line. With `crlf`, a carriage return ends a line as well. -/
  | lineStart (crlf : Bool)
  | lineEnd (crlf : Bool)
  /-- An edge of a word, of ASCII or of any script. -/
  | word (edge : WordEdge) (unicode : Bool)
  deriving DecidableEq, Repr

namespace WordEdge

/-- Whether an edge lies between a character and the next one, by whether they belong to words. -/
def holds (edge : WordEdge) (before after : Bool) : Bool :=
  match edge with
  | boundary => before != after
  | noBoundary => before == after
  | start => !before && after
  | stop => before && !after
  | startHalf => !before
  | stopHalf => !after

end WordEdge

namespace Look

/-- Whether a character belongs to a word. -/
def isWord (unicode : Bool) (c : Char) : Bool :=
  if unicode then CharSet.word.mem c else c.isAlphanum || c = '_'

/-- Whether an assertion holds between two characters, either of which is missing at an end of the
text. -/
def holds (l : Look) (before after : Option Char) : Bool :=
  match l with
  | textStart => before.isNone
  | textEnd => after.isNone
  | lineStart false => before.all (· = '\n')
  | lineStart true => before.all (· = '\n') || (before = some '\r' && after ≠ some '\n')
  | lineEnd false => after.all (· = '\n')
  | lineEnd true => after.all (· = '\r') || (after = some '\n' && before ≠ some '\r')
  | word edge unicode => edge.holds (before.any (isWord unicode)) (after.any (isWord unicode))

end Look

end JoinSheet
