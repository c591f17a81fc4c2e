import JoinSheet.Pattern.Flags
import JoinSheet.Pattern.Look

/-!
# Escapes

A backslash gives the characters after it another meaning: a character that stands for itself, a class
with a short name, or an assertion.

## Main definitions

* `PatternAtom` — what an escape can be.
* `PatternAtom.readEscape` — the escape after a backslash.
-/

namespace JoinSheet

/-- A single character, a class, or an assertion. -/
inductive PatternAtom where
  /-- A character; `isByte` if it is written as a byte with two digits. -/
  | char (c : Char) (isByte : Bool)
  | set (s : CharSet)
  | look (l : Look)

namespace PatternAtom

/-! ## Characters by their number -/

/-- Hexadecimal digits. -/
def isHexDigit (c : Char) : Bool := c.isDigit || ('a' ≤ c && c ≤ 'f') || ('A' ≤ c && c ≤ 'F')

/-- The value of a hexadecimal digit. -/
def hexValue (c : Char) : Nat :=
  if c.isDigit then c.toNat - '0'.toNat else c.toLower.toNat - 'a'.toNat + 10

/-- The character with a number in hexadecimal digits. -/
def ofHex? (digits : Text) : Option Char :=
  let n := digits.foldl (fun n c => 16 * n + hexValue c) 0
  if digits ≠ [] ∧ digits.all isHexDigit ∧ n.isValidChar then some (Char.ofNat n) else none

/-- The next `n` characters, blanks skipped after each, and what follows. -/
def takeChars? (f : PatternFlags) : Nat → Text → Option (Text × Text)
  | 0, t => some ([], t)
  | _ + 1, [] => none
  | n + 1, c :: rest => (takeChars? f n (f.skip rest)).map fun (cs, rest) => (c :: cs, rest)

/-- The character with a number, which is written with `digits` digits or between braces. -/
def readCode (f : PatternFlags) (digits : Nat) (t : Text) : Option (PatternAtom × Text) :=
  match f.skip t with
  | '{' :: rest => do
    let (hex, rest) ← f.braced? rest
    return (char (← ofHex? hex) false, f.skip rest)
  | t => do
    let (hex, rest) ← takeChars? f digits t
    return (char (← ofHex? hex) (digits == 2), rest)

/-! ## Classes by their name -/

/-- The class with the letter of a short name. -/
def shortClass? (f : PatternFlags) (letter : Char) : Option CharSet :=
  let sets : Option (CharSet × String) := match letter.toLower with
    | 'd' => some (.digit, "digit")
    | 's' => some (.blank, "space")
    | 'w' => some (.word, "word")
    | _ => none
  let negated := letter.isUpper
  sets.bind fun (any, ascii) =>
    if f.unicode then some (if negated then any.compl else any)
    else if negated then none
    else CharSet.ofAsciiName? ascii

/-- The set that a name between braces denotes, and whether its complement is meant. The name may be
that of a property with a value, which the property has or has not. -/
def namedSet? (name : Text) : Option (CharSet × Bool) :=
  match Text.cutAt? "!=" name with
  | some (property, value) => (CharSet.ofProperty? property value).map (·, true)
  | none =>
    let named := match name.cut? ':' <|> name.cut? '=' with
      | some (property, value) => CharSet.ofProperty? property value
      | none => CharSet.ofName? name
    named.map (·, false)

/-- The class with a name of one letter or between braces. A complement of a complement is none. -/
def readProperty (f : PatternFlags) (negated : Bool) (t : Text) : Option (PatternAtom × Text) := do
  let ((named, isOther), rest) ← match f.skip t with
    | [] => none
    | '{' :: rest => (f.braced? rest).bind fun (name, rest) => (namedSet? name).map (·, rest)
    | c :: rest => (CharSet.ofName? [c]).map fun named => ((named, false), f.skip rest)
  if !f.unicode then none
  return (set (← f.close (negated != isOther) named), rest)

/-! ## Assertions -/

/-- The edge of words that a name between braces denotes. -/
def edge? (name : Text) : Option WordEdge :=
  if name = "start" then some .start
  else if name = "end" then some .stop
  else if name = "start-half" then some .startHalf
  else if name = "end-half" then some .stopHalf
  else none

/-- A boundary of words, which a name between braces may make a special one. Braces that do not start
with a letter or a hyphen are a repetition instead. -/
def readBoundary (f : PatternFlags) (t : Text) : Option (PatternAtom × Text) :=
  let plain := look (.word .boundary f.unicode)
  match t with
  | '{' :: more =>
    match f.skip more with
    | [] => none
    | c :: _ =>
      if c.isAlpha || c = '-' then do
        let (name, rest) ← f.braced? more
        return (look (.word (← edge? name) f.unicode), rest)
      else some (plain, t)
  | _ => some (plain, t)

/-! ## All escapes -/

/-- The control character that a letter stands for. -/
def control? (letter : Char) : Option Char :=
  match letter with
  | 'a' => some '\x07'
  | 'f' => some '\x0c'
  | 't' => some '\t'
  | 'n' => some '\n'
  | 'r' => some '\r'
  | 'v' => some '\x0b'
  | _ => none

/-- The assertion that a character stands for. -/
def look? (f : PatternFlags) (c : Char) : Option Look :=
  match c with
  | 'A' => some .textStart
  | 'z' => some .textEnd
  | 'B' => some (.word .noBoundary f.unicode)
  | '<' => some (.word .start f.unicode)
  | '>' => some (.word .stop f.unicode)
  | _ => none

/-- Characters that stand for themselves after a backslash: those of ASCII that are neither letters
nor digits nor angle brackets. -/
def isEscapable (c : Char) : Bool := c.toNat < 128 && !c.isAlphanum && c != '<' && c != '>'

/-- The escape after a backslash, and what follows. -/
def readEscape (f : PatternFlags) : Text → Option (PatternAtom × Text)
  | [] => none
  | c :: rest =>
    if c = 'x' then readCode f 2 rest
    else if c = 'u' then readCode f 4 rest
    else if c = 'U' then readCode f 8 rest
    else if c = 'p' ∨ c = 'P' then readProperty f (c = 'P') rest
    else if c = 'b' then readBoundary f rest
    else if isEscapable c then some (char c false, rest)
    else
      let atom := (control? c).map (char · false) <|> (shortClass? f c).map set <|> (look? f c).map look
      atom.map (·, rest)

end PatternAtom

end JoinSheet
