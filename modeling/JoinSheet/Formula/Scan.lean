import JoinSheet.Formula.Lexeme
import JoinSheet.Formula.Reference
import JoinSheet.Formula.Token

/-!
# Tokens of a formula

The lexemes of a formula become tokens from left to right. Three of them depend on what precedes
them: a sign is an operator after a value and a prefix elsewhere, a comma separates arguments only
directly within a call, and a closing parenthesis takes the kind of the one it closes.

## Main definitions

* `Formula.tokenOf` — the token of one lexeme in its surroundings.
* `Formula.scan` — the tokens of a cell's text.
* `Formula.shift` — the tokens of the same formula some rows further down.
-/

namespace JoinSheet.Formula

/-- The character that cell text starts with if it is a formula, unless a sheet chooses another. -/
def defaultMarker : Char := '='

/-- What decides the meaning of the next lexeme: the last token that is not blank, and for every open
parenthesis, the innermost first, whether it belongs to a call. -/
structure Surroundings where
  previous : Option Token := none
  opened : List Bool := []

/-- Whether a sign after this token combines it with what follows. -/
def endsValue (t : Token) : Bool := t.isClosing || t.kind = .postfixOp || t.kind = .operand

/-- The token of an operator. -/
def operatorToken (previous : Option Token) (t : Text) : Token :=
  if t = "%" then ⟨.postfixOp, .plain, t, none⟩
  else if t = "+" ∨ t = "-" then
    ⟨if previous.any endsValue then .infixOp else .prefixOp, .plain, t, none⟩
  else if t = "*" ∨ t = "/" ∨ t = "^" ∨ t = "&" then ⟨.infixOp, .plain, t, none⟩
  else ⟨.infixOp, .logical, t, none⟩

/-- The token of one lexeme, and the surroundings of the next one. -/
def tokenOf (s : Surroundings) : Lexeme → Except ScanFault (Token × Surroundings)
  | .word t => let token := Token.operand t; .ok (token, { s with previous := token })
  | .quoted t => let token := Token.operand t; .ok (token, { s with previous := token })
  | .blanks t => .ok (⟨.blank, .plain, t, none⟩, s)
  | .operator t =>
    let token := operatorToken s.previous t
    .ok (token, { s with previous := token })
  | .opener name =>
    let isCall := name ≠ []
    let token := ⟨if isCall then .call else .paren, .opening, name ++ ['('], none⟩
    .ok (token, ⟨some token, isCall :: s.opened⟩)
  | .closer =>
    match s.opened with
    | [] => .error .unmatchedCloser
    | isCall :: opened =>
      let token := ⟨if isCall then .call else .paren, .closing, [')'], none⟩
      .ok (token, ⟨some token, opened⟩)
  | .comma =>
    let token := if s.opened.head? = some true then Token.comma else ⟨.infixOp, .plain, [','], none⟩
    .ok (token, { s with previous := token })
  | .unsupported _ => .error .arrayFormula
  | .unclosed _ => .error .unclosedText

/-- A token is written as its lexeme is. -/
theorem text_tokenOf {s s' : Surroundings} {l : Lexeme} {t : Token}
    (h : tokenOf s l = .ok (t, s')) : t.text = l.text := by
  cases l <;> simp only [tokenOf] at h
  case operator => cases h; unfold operatorToken; repeat' split
                   all_goals rfl
  case closer => split at h <;> cases h; rfl
  case comma => cases h; split <;> rfl
  all_goals cases h
  all_goals simp [Lexeme.text]

/-- The byte position that a fault in a lexeme at `position` is reported at. A missing quote is missed
at the end of the text. -/
def faultPosition (position : Nat) : Lexeme → Nat
  | .unclosed t => position + t.utf8Size
  | _ => position

/-- The tokens of lexemes that start at the byte `position`. -/
def classify (s : Surroundings) (position : Nat) :
    List Lexeme → Except (ScanFault × Nat) (List Token)
  | [] => if s.opened = [] then .ok [] else .error (.unmatchedOpener, position)
  | l :: rest =>
    match tokenOf s l with
    | .error fault => .error (fault, faultPosition position l)
    | .ok (token, s) => (classify s (position + l.text.utf8Size) rest).map (token :: ·)

/-- The tokens of a cell's text: those of a formula after the marker, and otherwise one literal. -/
def scan (marker : Char) (cellText : Text) : Except Error (List Token) :=
  match cellText with
  | [] => .ok [Token.ofLiteral []]
  | c :: body =>
    if c = marker then
      (classify {} marker.utf8Size (Lexeme.ofText body)).mapError fun (fault, position) =>
        .parse (.scan fault position cellText)
    else .ok [Token.ofLiteral cellText]

/-- A token some rows further down: references move, all else stays. -/
def shiftToken (offset : Int) (t : Token) : Except Error Token :=
  if t.isRange then do
    let moved ← (← Reference.read t.text).shift offset
    return Token.operand moved.toText
  else .ok t

/-- The tokens of the same formula some rows further down. -/
def shift (offset : Int) (tokens : List Token) : Except Error (List Token) :=
  tokens.mapM (shiftToken offset)

end JoinSheet.Formula
