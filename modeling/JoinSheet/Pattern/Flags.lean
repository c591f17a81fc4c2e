import JoinSheet.Pattern.ClassName
import JoinSheet.Unicode.Folding

/-!
# Flags of patterns

Flags change what the parts of a pattern after them mean. They stay in force until the group that they
stand in ends.

## Main definitions

* `PatternFlags` — the flags in force.
* `PatternFlags.skip` — what follows the blanks and comments that the notation allows.
* `PatternFlags.close`, `PatternFlags.literal?` — classes and single characters under the flags.
* `PatternFlags.readChanges` — changes of flags at the start of a group.
-/

namespace JoinSheet

/-- The flags in force at a place of a pattern. -/
structure PatternFlags where
  ignoreCase : Bool := false
  multiLine : Bool := false
  dotAll : Bool := false
  unicode : Bool := true
  crlf : Bool := false
  /-- Repetitions take as little as they can unless they are marked. -/
  swapGreed : Bool := false
  /-- Blanks and comments in the pattern mean nothing. -/
  verbose : Bool := false
  deriving DecidableEq, Repr

namespace PatternFlags

/-! ## Blanks and comments -/

/-- What follows blanks and comments. A comment lasts to the end of its line. -/
def skipFrom (inComment : Bool) : Text → Text
  | [] => []
  | c :: rest =>
    if inComment then skipFrom (c ≠ '\n') rest
    else if isBlank c then skipFrom false rest
    else if c = '#' then skipFrom true rest
    else c :: rest

theorem length_skipFrom_le (inComment : Bool) (t : Text) :
    (skipFrom inComment t).length ≤ t.length := by
  fun_induction skipFrom inComment t
  case case1 | case5 => exact Nat.le_refl _
  all_goals simp only [List.length_cons]; omega

/-- What follows blanks and comments, where the notation allows them. -/
def skip (f : PatternFlags) (t : Text) : Text := if f.verbose then skipFrom false t else t

theorem length_skip_le (f : PatternFlags) (t : Text) : (f.skip t).length ≤ t.length := by
  unfold skip; split
  · exact length_skipFrom_le _ _
  · exact Nat.le_refl _

/-- The characters before the next closing brace, and the text after it. -/
def braced? (f : PatternFlags) (t : Text) : Option (Text × Text) :=
  match _h : f.skip t with
  | [] => none
  | c :: rest =>
    if c = '}' then some ([], rest) else (f.braced? rest).map fun (name, rest) => (c :: name, rest)
termination_by t.length
decreasing_by
  have := f.length_skip_le t
  simp_all only [List.length_cons]; omega

/-! ## Characters under flags -/

/-- A set closed under case, if case is ignored. -/
def fold (f : PatternFlags) (s : CharSet) : CharSet :=
  if f.ignoreCase then s.closure (if f.unicode then Unicode.folds else Unicode.asciiFolds) else s

/-- A class as it is meant: closed under case if case is ignored, then complemented if it is negated.
Without Unicode no class may have members beyond ASCII. -/
def close (f : PatternFlags) (negated : Bool) (s : CharSet) : Option CharSet :=
  if !negated then some (f.fold s)
  else if f.unicode then some (f.fold s).compl
  else none

/-- A character that stands for itself. Without Unicode a byte may not lie beyond ASCII. -/
def literal? (f : PatternFlags) (c : Char) (isByte : Bool) : Option CharSet :=
  if !f.unicode && isByte && c > '\x7f' then none else some (f.fold (.single c))

/-- The characters that a point stands for. -/
def dot? (f : PatternFlags) : Option CharSet :=
  if !f.unicode then none
  else if f.dotAll then some .all
  else if f.crlf then some ((CharSet.single '\r').union (.single '\n')).compl
  else some (CharSet.single '\n').compl

/-! ## Changes -/

/-- The flags after a flag is switched on or off by its letter. -/
def change? (f : PatternFlags) (letter : Char) (on : Bool) : Option PatternFlags :=
  match letter with
  | 'i' => some { f with ignoreCase := on }
  | 'm' => some { f with multiLine := on }
  | 's' => some { f with dotAll := on }
  | 'u' => some { f with unicode := on }
  | 'R' => some { f with crlf := on }
  | 'x' => some { f with verbose := on }
  | 'U' => some { f with swapGreed := on }
  | _ => none

/-- The flags after the letters up to a colon or a closing parenthesis, that character, and the text
after it. Letters after a hyphen are switched off. No letter and no hyphen may come twice, and a hyphen
has a letter after it. An empty group of flags needs the colon. -/
def readChanges (f : PatternFlags) (seen : Text) : Text → Option (PatternFlags × Char × Text)
  | [] => none
  | c :: rest =>
    if c = ':' ∨ (c = ')' ∧ seen ≠ []) then
      if seen.head? = some '-' then none else some (f, c, rest)
    else if c ∈ seen then none
    else if c = '-' then f.readChanges (c :: seen) rest
    else match f.change? c ('-' ∉ seen) with
      | some f => f.readChanges (c :: seen) rest
      | none => none

end PatternFlags

end JoinSheet
