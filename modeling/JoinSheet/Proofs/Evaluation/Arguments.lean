import JoinSheet.Proofs.Evaluation.Reduction
import JoinSheet.Proofs.Evaluation.Search

/-!
# Calls and their arguments

A call that stands alone is evaluated by its function, with the argument that each part between its
commas is. That holds of any tokens whose parentheses match, whether or not they make up an
expression.

## Main definitions

* `IsArgument` — tokens that are one argument.
* `Token.callOf` — the tokens of a call.
* `CallFrame` — a call with a place among its arguments.

## Main statements

* `Scope.reduce_callOf` — what a call by itself is evaluated to.
* `CallFrame.evaluate_fill` — what a call is evaluated to with tokens put in that place.
-/

namespace JoinSheet

/-- Tokens that are one argument of a call: their parentheses match, and only within parentheses
there are commas that separate. -/
def IsArgument (tokens : List Token) : Prop := Balanced (fun t => t.kind ≠ .separator) tokens

/-- The tokens of a call, with commas between its arguments. -/
def Token.callOf (name : Text) (arguments : List (List Token)) : List Token :=
  callOpener name :: ([comma].intercalate arguments ++ [callCloser])

variable {arguments : List (List Token)} {name : Text} {tokens : List Token}

theorem balanced_comma : Balanced (fun _ => True) [Token.comma] :=
  .token trivial (by decide) (by decide) .nil

theorem balanced_intercalate (h : ∀ a ∈ arguments, IsArgument a) :
    Balanced (fun _ => True) ([Token.comma].intercalate arguments) := by
  induction arguments with
  | nil => exact .nil
  | cons a as ih =>
    obtain ⟨first, rest⟩ := List.forall_mem_cons.1 h
    have whole := first.mono (r := fun _ => True) fun _ _ => trivial
    cases as with
    | nil => simpa using whole
    | cons b as =>
      rw [List.intercalate_cons_cons]
      exact (whole.append balanced_comma).append (ih rest)

/-- Arguments are what the commas between them separate. -/
theorem splitArguments_intercalate (h : ∀ a ∈ arguments, IsArgument a)
    (written : [Token.comma].intercalate arguments ≠ []) :
    splitArguments ([Token.comma].intercalate arguments) = arguments := by
  rw [splitArguments, if_neg written]
  have some : arguments ≠ [] := by
    rintro rfl
    exact written rfl
  clear written
  induction arguments with
  | nil => exact absurd rfl some
  | cons a as ih =>
    obtain ⟨first, rest⟩ := List.forall_mem_cons.1 h
    have parts (ys : List Token) : splitArgumentsFrom 0 (a ++ ys) = _ :=
      splitArgumentsFrom_append first (fun _ _ separates => separates) ys
    cases as with
    | nil =>
      have alone := parts []
      simpa [splitArgumentsFrom, extendFirst] using alone
    | cons b as =>
      rw [List.intercalate_cons_cons, List.append_assoc, parts, List.singleton_append,
        splitArgumentsFrom_comma, ih rest (by simp), extendFirst, List.append_nil]

/-! ## Blanks -/

/-- A token that is not blank. -/
def Token.isPrinted (t : Token) : Bool := t.kind ≠ .blank

theorem Token.filter_intercalate (arguments : List (List Token)) :
    ([comma].intercalate arguments).filter isPrinted =
      [comma].intercalate (arguments.map (List.filter isPrinted)) := by
  induction arguments with
  | nil => rfl
  | cons a as ih =>
    cases as with
    | nil => simp
    | cons b as =>
      rw [List.intercalate_cons_cons, List.filter_append, List.filter_append, ih]
      exact (List.intercalate_cons_cons ..).symm

theorem Token.filter_callOf (name : Text) (arguments : List (List Token)) :
    (callOf name arguments).filter isPrinted =
      callOf name (arguments.map (List.filter isPrinted)) := by
  have opener : (callOpener name).isPrinted = true := rfl
  have closer : [callCloser].filter isPrinted = [callCloser] := rfl
  rw [callOf, List.filter_cons_of_pos opener, List.filter_append, closer, filter_intercalate, callOf]

/-- Parentheses that match still do without the blanks between them. -/
theorem Balanced.filter {q : Token → Prop} (h : Balanced q tokens)
    (plain : ∀ t ∈ tokens, t.kind = .blank → ¬t.isOpening ∧ ¬t.isClosing) :
    Balanced q (tokens.filter Token.isPrinted) := by
  have printed {t : Token} (mark : (t.kind = .blank → ¬t.isOpening ∧ ¬t.isClosing))
      (marked : t.isOpening ∨ t.isClosing) : t.isPrinted := by
    by_contra blank
    have none := mark (by simpa [Token.isPrinted] using blank)
    exact marked.elim none.1 none.2
  induction h with
  | nil => exact .nil
  | @token q t ts holds notOpening notClosing _ ih =>
    have later := ih fun t mem => plain t (List.mem_cons_of_mem _ mem)
    rw [List.filter_cons]
    split
    · exact .token holds notOpening notClosing later
    · exact later
  | @group q opener closer inside ts holds opens closes noComma _ _ ihInside ihRest =>
    simp only [List.forall_mem_cons, List.forall_mem_append] at plain
    obtain ⟨plainOpener, plainInside, plainCloser, plainRest⟩ := plain
    rw [List.filter_cons_of_pos (printed plainOpener (.inl opens)), List.filter_append,
      List.filter_cons_of_pos (printed plainCloser (.inr closes))]
    exact .group holds opens closes noComma (ihInside plainInside) (ihRest plainRest)

/-! ## The value of a call -/

namespace Scope

variable {scope : Scope}

/-- A call that stands alone has the value that its function has for its arguments. -/
theorem reduce_callOf (h : ∀ a ∈ arguments, IsArgument a)
    (written : [Token.comma].intercalate arguments ≠ []) (name : Text) :
    scope.reduce (Token.callOf name arguments) = (do
      let v ← scope.call name.upper (arguments.map scope.argument)
      scope.operand v) := by
  have nested := balanced_intercalate h
  have split := splitArguments_intercalate h written
  unfold Token.callOf
  generalize [Token.comma].intercalate arguments = inside at written nested split ⊢
  have noComma : Token.callCloser.kind ≠ .separator := by decide
  -- Neither a sign nor a group stands outside of the call.
  have skips {p : Token → List Token → Bool}
      (missed : ∀ rest, p (Token.callOpener name) rest = false) :
      Cut.first? p (Token.callOpener name :: (inside ++ [Token.callCloser])) = none :=
    (Cut.skips_of_balanced (q := (· = Token.callOpener name))
      (.group rfl rfl rfl noComma nested .nil) fun _ rest found => found ▸ missed rest).eq_none
  have noSign : Cut.first? signsValue _ = none := skips fun _ => rfl
  have noGroup : Cut.first? opensGroup _ = none := skips fun _ => rfl
  have first : Cut.first? opensCall (Token.callOpener name :: (inside ++ [Token.callCloser])) =
      some ⟨[], Token.callOpener name, inside ++ [Token.callCloser]⟩ :=
    Cut.first?_cons_of_pos Bool.false_ne_true (by rw [opensCall, functionName?_callOpener]; rfl)
  have closed : Cut.closing? 0 (inside ++ [Token.callCloser]) = _ :=
    Cut.closing?_of_nested nested rfl []
  have shorter : inside.length <
      (Token.callOpener name :: (inside ++ [Token.callCloser])).length := by
    simp only [List.length_cons, List.length_append]
    omega
  have notSign : (Token.callOpener name).kind ≠ .prefixOp := by simp [Token.callOpener]
  rw [scope.reduce_of_contract notSign (by simp), contract_eq_or, signRule_eq_none noSign,
    groupRule_eq_none noGroup, Option.none_or, Option.none_or,
    callRule_of_first? first (functionName?_callOpener name), Option.some_or, Option.getD_some,
    contractGroup_bind _ closed _ shorter scope.reduce, split]
  rfl

end Scope

/-! ## Calls with a place for arguments -/

theorem intercalate_before (before : List (List Token)) (written : arguments ≠ []) :
    [Token.comma].intercalate (before ++ arguments) =
      before.flatMap (· ++ [Token.comma]) ++ [Token.comma].intercalate arguments := by
  induction before with
  | nil => rfl
  | cons a as ih =>
    obtain ⟨b, bs, more⟩ : ∃ b bs, as ++ arguments = b :: bs :=
      List.exists_cons_of_ne_nil (by simp [written])
    rw [List.cons_append, more, List.intercalate_cons_cons, ← more, ih, List.flatMap_cons,
      List.append_assoc (a ++ [Token.comma])]

theorem intercalate_cons (a : List Token) (after : List (List Token)) :
    [Token.comma].intercalate (a :: after) = a ++ after.flatMap (Token.comma :: ·) := by
  induction after generalizing a with
  | nil => simp
  | cons b after ih =>
    rw [List.intercalate_cons_cons, ih, List.flatMap_cons, List.append_assoc]
    rfl

theorem intercalate_after (after : List (List Token)) (written : arguments ≠ []) :
    [Token.comma].intercalate (arguments ++ after) =
      [Token.comma].intercalate arguments ++ after.flatMap (Token.comma :: ·) := by
  obtain ⟨a, as, rfl⟩ := List.exists_cons_of_ne_nil written
  rw [List.cons_append, intercalate_cons, intercalate_cons, List.flatMap_append, List.append_assoc]

/-- A call with a place among its arguments, and blanks around that place. -/
structure CallFrame where
  name : Text
  before : List (List Token)
  lead : List Token
  trail : List Token
  after : List (List Token)
  isArgument : ∀ a ∈ before ++ after, IsArgument a
  blank : ∀ t ∈ lead ++ trail, t.kind = .blank

namespace CallFrame

variable (frame : CallFrame)

/-- The tokens between the opening parenthesis and the place. -/
def front : List Token := frame.before.flatMap (· ++ [Token.comma]) ++ frame.lead

/-- The tokens behind the place. -/
def back : List Token :=
  frame.trail ++ frame.after.flatMap (Token.comma :: ·) ++ [Token.callCloser]

/-- The tokens of the call with single tokens, each of them an argument, in its place. -/
def fill (ts : List Token) : List Token :=
  Token.callOpener frame.name ::
    (frame.front ++ ([Token.comma].intercalate (ts.map ([·])) ++ frame.back))

/-- The arguments of the call without blanks. -/
def parts (ts : List Token) : List (List Token) :=
  frame.before.map (List.filter Token.isPrinted) ++ ts.map ([·]) ++
    frame.after.map (List.filter Token.isPrinted)

theorem filter_eq_nil {blanks : List Token} (h : ∀ t ∈ blanks, t.kind = .blank) :
    blanks.filter Token.isPrinted = [] :=
  List.filter_eq_nil_iff.2 fun t mem => by simp [Token.isPrinted, h t mem]

variable {frame} {ts : List Token}

/-- Without its blanks, such a call is one of its arguments. -/
theorem filter_fill (written : ts ≠ []) (operands : ∀ t ∈ ts, t.IsOperand) :
    (frame.fill ts).filter Token.isPrinted = Token.callOf frame.name (frame.parts ts) := by
  obtain ⟨lead, trail⟩ := List.forall_mem_append.1 frame.blank
  have opener : (Token.callOpener frame.name).isPrinted = true := rfl
  have comma : Token.comma.isPrinted = true := rfl
  have closer : [Token.callCloser].filter Token.isPrinted = [Token.callCloser] := rfl
  have front : frame.front.filter Token.isPrinted =
      (frame.before.map (List.filter Token.isPrinted)).flatMap (· ++ [Token.comma]) := by
    simp [CallFrame.front, filter_eq_nil lead, List.filter_flatMap, List.flatMap_map, comma]
  have back : frame.back.filter Token.isPrinted =
      (frame.after.map (List.filter Token.isPrinted)).flatMap (Token.comma :: ·) ++
        [Token.callCloser] := by
    simp [CallFrame.back, filter_eq_nil trail, List.filter_flatMap, List.flatMap_map, comma, closer]
  have inside : ([Token.comma].intercalate (ts.map ([·]))).filter Token.isPrinted =
      [Token.comma].intercalate (ts.map ([·])) := by
    rw [Token.filter_intercalate, List.map_map]
    refine congrArg _ (List.map_congr_left fun t mem => ?_)
    have printed : t.isPrinted := by simpa [Token.isPrinted] using (operands t mem).kind_ne_blank
    exact List.filter_cons_of_pos printed
  rw [fill, List.filter_cons_of_pos opener, List.filter_append, List.filter_append, front, back,
    inside, Token.callOf, parts, List.append_assoc, intercalate_before _ (by simp [written]),
    intercalate_after _ (by simp [written])]
  simp only [List.append_assoc]

theorem map_parts {α : Type} (f : List Token → α) (ts : List Token) : (frame.parts ts).map f =
    (frame.before.map (List.filter Token.isPrinted)).map f ++ ts.map (fun t => f [t]) ++
      (frame.after.map (List.filter Token.isPrinted)).map f := by
  rw [parts, List.map_append, List.map_append, List.map_map (f := ([·]))]
  rfl

theorem isArgument_parts (operands : ∀ t ∈ ts, t.IsOperand)
    (plain : ∀ t ∈ frame.fill ts, t.kind = .blank → ¬t.isOpening ∧ ¬t.isClosing) :
    ∀ a ∈ frame.parts ts, IsArgument a := by
  have mem_fill {a : List Token} (mem : a ∈ frame.before ++ frame.after) {t : Token}
      (inside : t ∈ a) : t ∈ frame.fill ts := by
    obtain mem | mem := List.mem_append.1 mem
    · have : t ∈ frame.before.flatMap (· ++ [Token.comma]) :=
        List.mem_flatMap.2 ⟨a, mem, List.mem_append_left _ inside⟩
      simp [fill, front, this]
    · have : t ∈ frame.after.flatMap (Token.comma :: ·) :=
        List.mem_flatMap.2 ⟨a, mem, List.mem_cons_of_mem _ inside⟩
      simp [fill, back, this]
  have other {a : List Token} (mem : a ∈ frame.before ++ frame.after) :
      IsArgument (a.filter Token.isPrinted) :=
    (frame.isArgument a mem).filter fun t inside => plain t (mem_fill mem inside)
  simp only [parts, List.forall_mem_append, List.forall_mem_map]
  refine ⟨⟨fun a mem => other (List.mem_append_left _ mem), fun t mem => ?_⟩,
    fun a mem => other (List.mem_append_right _ mem)⟩
  obtain ⟨-, notOpening, notClosing⟩ := operands t mem
  exact .token (operands t mem).isPart.2 notOpening notClosing .nil

/-- The value of such a call is that of the function for its arguments. -/
theorem evaluate_fill (scope : Scope) (written : ts ≠ []) (operands : ∀ t ∈ ts, t.IsOperand)
    (plain : ∀ t ∈ frame.fill ts, t.kind = .blank → ¬t.isOpening ∧ ¬t.isClosing) :
    scope.evaluate (frame.fill ts) = (do
      let v ← scope.call frame.name.upper ((frame.parts ts).map scope.argument)
      scope.operand v) := by
  have nonempty : [Token.comma].intercalate (frame.parts ts) ≠ [] := by
    obtain ⟨t, ts, rfl⟩ := List.exists_cons_of_ne_nil written
    rw [parts, List.append_assoc, intercalate_before _ (by simp), List.map_cons,
      List.cons_append, intercalate_cons]
    simp
  have whole : scope.evaluate (frame.fill ts) =
      scope.reduce ((frame.fill ts).filter Token.isPrinted) := rfl
  rw [whole, filter_fill written operands]
  exact Scope.reduce_callOf (isArgument_parts operands plain) nonempty frame.name

/-- What stands before the place closes the groups that it opens. -/
theorem balanced_front
    (plain : ∀ t ∈ frame.lead, t.kind = .blank → ¬t.isOpening ∧ ¬t.isClosing) :
    Balanced (fun _ => True) frame.front := by
  have lead : Balanced (fun _ => True) frame.lead := by
    have blank := (List.forall_mem_append.1 frame.blank).1
    generalize frame.lead = blanks at plain blank
    induction blanks with
    | nil => exact .nil
    | cons t blanks ih =>
      obtain ⟨first, rest⟩ := List.forall_mem_cons.1 plain
      obtain ⟨isBlank, others⟩ := List.forall_mem_cons.1 blank
      exact .token trivial (first isBlank).1 (first isBlank).2 (ih rest others)
  have before : Balanced (fun _ => True) (frame.before.flatMap (· ++ [Token.comma])) := by
    have isArgument := (List.forall_mem_append.1 frame.isArgument).1
    generalize frame.before = arguments at isArgument
    induction arguments with
    | nil => exact .nil
    | cons a as ih =>
      obtain ⟨first, rest⟩ := List.forall_mem_cons.1 isArgument
      exact ((first.mono fun _ _ => trivial).append balanced_comma).append (ih rest)
  exact before.append lead

end CallFrame

end JoinSheet
