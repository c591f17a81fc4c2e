import JoinSheet.Evaluation.Reduce
import JoinSheet.Proofs.Evaluation.Operand

/-!
# Expressions

The grammar of formulas as syntax trees, and the value of a tree by recursion on it. A tree says how
its signs and operators bind, so its value needs no rules of precedence. The tokens of a tree spell
it without saying any of that.

## Main definitions

* `Expression` — the syntax trees, with `Summation`, `Term`, `Factor`, `Atom` and `Arguments`.
* `Expression.tokens` — the tokens that spell a tree.
* `Expression.value` — the value of a tree.
-/

namespace JoinSheet

/-! ## Operators -/

/-- The signs that may stand before a value. -/
inductive Sign where
  | plus | minus
  deriving DecidableEq, Repr

/-- A sign as it stands before a value. -/
def Sign.token : Sign → Token
  | plus => ⟨.prefixOp, .plain, "+", none⟩
  | minus => ⟨.prefixOp, .plain, "-", none⟩

/-- An operator as it stands between two values. -/
def Arithmetic.token (op : Arithmetic) : Token := ⟨.infixOp, .plain, op.toText, none⟩

/-- The comparisons that a condition may make. -/
inductive Relation where
  | eq | ne | lt | le | gt | ge
  deriving DecidableEq, Repr

/-- How a comparison is written. -/
def Relation.toText : Relation → Text
  | eq => "="
  | ne => "<>"
  | lt => "<"
  | le => "<="
  | gt => ">"
  | ge => ">="

/-- A comparison as it stands between two values. -/
def Relation.token (r : Relation) : Token := ⟨.infixOp, .logical, r.toText, none⟩

/-! ## Syntax trees -/

/-- The first factor of an expression has no sign of its own, a later one may. -/
inductive Place where
  | first | later

mutual

/-- An expression: a sign that applies to all that follows it, or a sum. -/
inductive Expression where
  | signed (sign : Sign) (rest : Expression)
  | sum (s : Summation)

/-- Terms that are added and subtracted, from left to right. -/
inductive Summation where
  | term (t : Term .first)
  | more (left : Summation) (op : Arithmetic) (isSum : op.isFactor = false) (right : Term .later)

/-- Factors that are multiplied and divided, from left to right. -/
inductive Term : Place → Type where
  | factor {p : Place} (f : Factor p) : Term p
  | more {p : Place} (left : Term p) (op : Arithmetic) (isFactor : op.isFactor = true)
      (right : Factor .later) : Term p

/-- An atom, with signs that apply to it alone unless it is the first of its expression. -/
inductive Factor : Place → Type where
  | atom {p : Place} (a : Atom) : Factor p
  | signed (sign : Sign) (f : Factor .later) : Factor .later

/-- An operand, an expression between parentheses, or a call. A call of `IF` may have a comparison
for its first argument. -/
inductive Atom where
  | operand (t : Token) (isOperand : t.IsOperand)
  | group (e : Expression)
  | call (name : Text) (arguments : Arguments)
  | compare (name : Text) (isIf : name.upper = "IF") (left : Expression) (relation : Relation)
      (right : Expression) (arguments : Arguments)

/-- Expressions that are arguments of a call. An argument that consists of a single reference is one
of a single operand. -/
inductive Arguments where
  | nil
  | cons (e : Expression) (rest : Arguments)

end

/-! ## Tokens -/

namespace Token

/-- The parenthesis that opens a call. -/
def callOpener (name : Text) : Token := ⟨.call, .opening, name ++ ['('], none⟩

/-- The parenthesis that closes a call. -/
def callCloser : Token := ⟨.call, .closing, ")", none⟩

/-- The parenthesis that opens a group. -/
def groupOpener : Token := ⟨.paren, .opening, "(", none⟩

/-- The parenthesis that closes a group. -/
def groupCloser : Token := ⟨.paren, .closing, ")", none⟩

end Token

mutual

/-- The tokens that spell an expression. -/
def Expression.tokens : Expression → List Token
  | .signed sign rest => sign.token :: rest.tokens
  | .sum s => s.tokens

/-- The tokens that spell a sum. -/
def Summation.tokens : Summation → List Token
  | .term t => t.tokens
  | .more left op _ right => left.tokens ++ op.token :: right.tokens

/-- The tokens that spell a term. -/
def Term.tokens {p : Place} : Term p → List Token
  | .factor f => f.tokens
  | .more left op _ right => left.tokens ++ op.token :: right.tokens

/-- The tokens that spell a factor. -/
def Factor.tokens {p : Place} : Factor p → List Token
  | .atom a => a.tokens
  | .signed sign f => sign.token :: f.tokens

/-- The tokens that spell an atom. -/
def Atom.tokens : Atom → List Token
  | .operand t _ => [t]
  | .group e => Token.groupOpener :: e.tokens ++ [Token.groupCloser]
  | .call name arguments => Token.callOpener name :: arguments.tokens ++ [Token.callCloser]
  | .compare name _ left relation right arguments =>
    Token.callOpener name ::
      (left.tokens ++ relation.token :: right.tokens ++ arguments.laterTokens) ++ [Token.callCloser]

/-- The tokens that spell the arguments of a call. -/
def Arguments.tokens : Arguments → List Token
  | .nil => []
  | .cons e rest => e.tokens ++ rest.laterTokens

/-- The tokens that spell arguments after another one. -/
def Arguments.laterTokens : Arguments → List Token
  | .nil => []
  | .cons e rest => Token.comma :: e.tokens ++ rest.laterTokens

end

/-! ## Values -/

/-- The reference that an expression consists of, if it is a single one. -/
def Expression.reference? : Expression → Option (Except Error Reference)
  | .sum (.term (.factor (.atom (.operand t _)))) =>
    if t.isRange then some (Reference.read t.text) else none
  | _ => none

/-- The argument that something with a value is. -/
def Argument.ofValue (range? : Option (Except Error Reference)) (value : Unit → Action Token) :
    Argument where
  range?
  value
  holds _ := do truthValue (← value ())

/-- The value of the second argument of `IF` if the first one holds, and otherwise of the third. -/
def decideBy (test : Action Bool) (others : List Argument) : Action Token :=
  match others with
  | [ifTrue, ifFalse] => do if ← test then ifTrue.value () else ifFalse.value ()
  | _ => throw (.eval (.argumentCount "IF"))

mutual

/-- The value of an expression. A sign applies to the value of all that follows it. -/
def Expression.value (scope : Scope) : Expression → Action Token
  | .signed sign rest => do applySign sign.token (← rest.value scope)
  | .sum s => s.value scope

/-- The value of a sum. -/
def Summation.value (scope : Scope) : Summation → Action Token
  | .term t => t.value scope
  | .more left op _ right => do
    let x ← left.value scope
    let y ← right.value scope
    op.combine x y

/-- The value of a term. -/
def Term.value {p : Place} (scope : Scope) : Term p → Action Token
  | .factor f => f.value scope
  | .more left op _ right => do
    let x ← left.value scope
    let y ← right.value scope
    op.combine x y

/-- The value of a factor. -/
def Factor.value {p : Place} (scope : Scope) : Factor p → Action Token
  | .atom a => a.value scope
  | .signed sign f => do applySign sign.token (← f.value scope)

/-- The value of an atom. Of the last two arguments of `IF` only the one that is chosen is
evaluated. -/
def Atom.value (scope : Scope) : Atom → Action Token
  | .operand t _ => scope.operand t
  | .group e => e.value scope
  | .call name arguments =>
    if name.upper = "IF" then
      match arguments.values scope with
      | test :: others => decideBy (test.holds ()) others
      | [] => throw (.eval (.argumentCount "IF"))
    else scope.call name.upper (arguments.values scope)
  | .compare _ _ left relation right arguments =>
    let test : Action Bool := do
      let x ← left.value scope
      let y ← right.value scope
      compareValues relation.toText x y
    decideBy test (arguments.values scope)

/-- The arguments of a call. -/
def Arguments.values (scope : Scope) : Arguments → List Argument
  | .nil => []
  | .cons e rest => .ofValue e.reference? (fun _ => e.value scope) :: rest.values scope

end

end JoinSheet
