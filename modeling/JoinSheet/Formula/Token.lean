import JoinSheet.Error
import JoinSheet.Number.Reading
import JoinSheet.Number.Writing
import JoinSheet.Value

/-!
# Tokens

A token is a piece of a formula with the exact text it was written as, so that the texts of the
tokens in a row spell the formula. Values found while a formula is evaluated are tokens too, written
as a formula would write them.

## Main definitions

* `TokenKind`, `TokenRole`, `Token` — what a token is, what it stands for, and its text.
* `Token.operand`, `Token.ofNumber`, `Token.ofText`, `Token.ofCell` — operands by their text, by
  their value, and by what a cell shows.
* `Token.textValue`, `Token.toCell` — a value as a user sees it, and as a cell holds it.
* `Token.render` — the formula that tokens spell.
-/

namespace JoinSheet

/-- What a token is. -/
inductive TokenKind where
  /-- The whole text of a cell that is not a formula. -/
  | literal
  | operand
  /-- A parenthesis of a function call; the opening one carries the name. -/
  | call
  | paren
  | separator
  | prefixOp
  | infixOp
  | postfixOp
  | blank
  deriving DecidableEq, Repr

/-- What a token stands for. Comparison operators are `logical`. -/
inductive TokenRole where
  | plain
  | text
  | number
  | logical
  | range
  /-- The absent value. -/
  | empty
  | opening
  | closing
  | argument
  deriving DecidableEq, Repr

/-- The name of a kind in the display of a token. -/
def TokenKind.toText : TokenKind → Text
  | literal => "Literal"
  | operand => "Operand"
  | call => "Func"
  | paren => "Paren"
  | separator => "Sep"
  | prefixOp => "OpPrefix"
  | infixOp => "OpInfix"
  | postfixOp => "OpPostfix"
  | blank => "Whitespace"

/-- The name of a role in the display of a token. -/
def TokenRole.toText : TokenRole → Text
  | plain => "None"
  | text => "Text"
  | number => "Number"
  | logical => "Logical"
  | range => "Range"
  | empty => "Empty"
  | opening => "Open"
  | closing => "Close"
  | argument => "Arg"

/-- A piece of a formula. `text` is how it is written; `number` is what a numeric operand denotes. -/
structure Token where
  kind : TokenKind
  role : TokenRole
  text : Text
  number : Option Float := none
  deriving DecidableEq

namespace Token

/-! ## Making tokens -/

/-- `TRUE` and `FALSE`, in any letter case. -/
def isLogicalText (t : Text) : Bool := t.eqIgnoringCase "TRUE" || t.eqIgnoringCase "FALSE"

/-- The text of a cell that is not a formula. -/
def ofLiteral (raw : Text) : Token :=
  match Number.read? raw with
  | some x => ⟨.literal, .number, raw, some x⟩
  | none => ⟨.literal, .text, raw, none⟩

/-- An operand by its text: a quoted text, a logical value, a number, or else a reference. -/
def operand (t : Text) : Token :=
  if t.head? = some '"' then ⟨.operand, .text, t, none⟩
  else if isLogicalText t then ⟨.operand, .logical, t, none⟩
  else match Number.read? t with
    | some x => ⟨.operand, .number, t, some x⟩
    | none => ⟨.operand, .range, t, none⟩

@[simp] theorem text_operand (t : Text) : (operand t).text = t := by
  unfold operand
  split
  · rfl
  · split
    · rfl
    · split <;> rfl

@[simp] theorem kind_operand (t : Text) : (operand t).kind = .operand := by
  unfold operand
  split
  · rfl
  · split
    · rfl
    · split <;> rfl

/-- The operand that denotes a number. -/
def ofNumber (x : Float) : Token := ⟨.operand, .number, Number.write x, some x⟩

/-- The operand that denotes a truth value. -/
def ofLogical (b : Bool) : Token :=
  ⟨.operand, .logical, if b then "true" else "false", none⟩

/-- A text with every double quote written twice. -/
def doubleQuotes : Text → Text
  | [] => []
  | c :: rest => if c = '"' then '"' :: '"' :: doubleQuotes rest else c :: doubleQuotes rest

/-- A text with every two double quotes in a row read as one. -/
def singleQuotes : Text → Text
  | '"' :: '"' :: rest => '"' :: singleQuotes rest
  | c :: rest => c :: singleQuotes rest
  | [] => []

theorem singleQuotes_doubleQuotes (t : Text) : singleQuotes (doubleQuotes t) = t := by
  induction t with
  | nil => rfl
  | cons c rest ih =>
    by_cases h : c = '"'
    · simp [doubleQuotes, singleQuotes, h, ih]
    · rw [doubleQuotes, if_neg h, singleQuotes, ih]
      intro x hx; exact absurd hx h

/-- The operand that denotes a text, written between double quotes. -/
def ofText (t : Text) : Token := ⟨.operand, .text, '"' :: doubleQuotes t ++ ['"'], none⟩

/-- The operand that stands for an absent cell. -/
def absent : Token := ⟨.operand, .empty, [], none⟩

/-- The operand that stands for what a cell shows. Numbers keep the text of the cell. -/
def ofCell : Cell → Token
  | none => absent
  | some t =>
    match Number.read? t with
    | some x => ⟨.operand, .number, t, some x⟩
    | none => if isLogicalText t then ⟨.operand, .logical, t, none⟩ else ofText t

/-- A parenthesis of a call or of a group. A text that ends with `)` closes, any other opens. -/
def bracket (t : Text) (isCall : Bool) : Token :=
  ⟨if isCall then .call else .paren, if t.getLast? = some ')' then .closing else .opening, t, none⟩

/-- The closing parenthesis that belongs to an opening one. -/
def closer (opener : Token) : Except Error Token :=
  if opener.role = .opening then .ok (bracket ")" (opener.kind = .call))
  else .error (.parse .notAnOpener)

/-- The comma between two arguments. -/
def comma : Token := ⟨.separator, .argument, ",", none⟩

/-! ## Looking at tokens -/

/-- Signs and operators. -/
def isOperator (t : Token) : Bool :=
  t.kind = .prefixOp || t.kind = .infixOp || t.kind = .postfixOp

/-- Operands and literals. -/
def isValue (t : Token) : Bool := t.kind = .operand || t.kind = .literal

/-- Operands that refer to cells. -/
def isRange (t : Token) : Bool := t.kind = .operand && t.role = .range

/-- Tokens that denote a number. -/
def isNumeric (t : Token) : Bool := t.number.isSome

/-- Opening parentheses. -/
def isOpening (t : Token) : Bool := t.role = .opening

/-- Closing parentheses. -/
def isClosing (t : Token) : Bool := t.role = .closing

/-- The operators `=`, `<`, `<=`, `>`, `>=` and `<>`. -/
def isComparison (t : Token) : Bool := t.kind = .infixOp && t.role = .logical

/-- The name of the function that an opening parenthesis calls. -/
def functionName? (t : Token) : Option Text :=
  if t.kind = .call ∧ t.role = .opening ∧ t.text.getLast? = some '(' then some t.text.dropLast
  else none

/-- The truth value that a token denotes. -/
def logical? (t : Token) : Option Bool :=
  if t.role ≠ .logical ∨ t.kind = .infixOp then none
  else if t.text.eqIgnoringCase "TRUE" then some true
  else if t.text.eqIgnoringCase "FALSE" then some false
  else none

/-- A text without the double quotes around it, if it has both. -/
def unquote (t : Text) : Text :=
  match t with
  | '"' :: rest => if rest.getLast? = some '"' then rest.dropLast else t
  | _ => t

/-- A value as a user sees it: texts without their quotes. -/
def textValue (t : Token) : Text :=
  if t.kind = .operand ∧ t.role = .text then singleQuotes (unquote t.text) else t.text

/-- What a cell with this value shows. The absent value and an empty literal leave it absent, an
empty text does not. -/
def toCell (t : Token) : Cell :=
  if t.role = .empty ∨ (t.kind = .literal ∧ t.text = []) then none else some t.textValue

/-- A token for a reader of logs. -/
def display (t : Token) : Text :=
  "<" ++ t.kind.toText ++ " subtype: " ++ t.role.toText ++ " value: " ++ t.text ++ ">"

/-! ## Rendering -/

/-- The texts of tokens in a row. -/
def spell (tokens : List Token) : Text := tokens.flatMap Token.text

@[simp] theorem spell_nil : spell [] = [] := rfl

@[simp] theorem spell_cons (t : Token) (ts : List Token) : spell (t :: ts) = t.text ++ spell ts := rfl

@[simp] theorem spell_append (ss ts : List Token) : spell (ss ++ ts) = spell ss ++ spell ts := by
  simp [spell]

/-- The cell text that tokens come from: the text of a single literal, and otherwise the marker of
formulas before what the tokens spell. -/
def render (marker : Char) (tokens : List Token) : Text :=
  match tokens with
  | [only] => if only.kind = .literal then only.text else marker :: only.text
  | _ => marker :: spell tokens

end Token

end JoinSheet
