import ParserCombinators.Expression.Tree
import ParserCombinators.Parser.Alternative

/-!
# Reading an expression by precedence

`extend` grows a left operand for as long as an operator comes next whose precedence is at least a
threshold.  What stands to the right of that operator is read with a threshold one higher, so a
chain of operators of equal precedence groups to the left.

The calls of `extend` inside each other have a bound, and so has the nesting of groups: functions of the
text that is left where an expression or a group begins.  Where every operator consumes something together
with its operand, one call more than there are characters is enough, and where nothing is consumed the calls
never end, with a bound or without.  A group consumes its opening before it starts another expression; in
the same way its nesting is bounded by the characters that remain.  One more than there are characters is
therefore the bound that is set wherever none is named.
-/

namespace ParserCombinators

namespace Parser

variable {α β γ : Type}

/-- Grows `left` by the operators of at least the precedence `least` that follow, nested at most
`depth` deep. -/
def extend (primary : Parser (Tree α)) (operators : List Operator) :
    Nat → Int → Tree α → Parser (Tree α)
  | 0, _, _, _ => .fault .diverged
  | depth + 1, least, left, cursor =>
      (operator operators cursor).andThen fun next behind =>
        match next with
        | none => .matched left cursor
        | some found =>
            if found.precedence < least then .matched left cursor
            else
              ((primary behind).andThen fun start inside =>
                  extend primary operators depth (found.precedence + 1) start inside).andThen
                fun right rest =>
                  extend primary operators depth least (.binary left found right) rest

/-- A left operand grows by the operator that comes next and by what that operator has on its
right, or is complete where no operator of the threshold comes next. -/
theorem extend_succ (primary : Parser (Tree α)) (operators : List Operator) (depth : Nat)
    (least : Int) (left : Tree α) (cursor : Cursor) :
    extend primary operators (depth + 1) least left cursor =
      match Operator.next? (Operator.atLeast least) operators cursor.remaining with
      | none => .matched left cursor
      | some found =>
          ((primary (cursor.past found.symbol)).andThen fun start inside =>
              extend primary operators depth (found.precedence + 1) start inside).andThen
            fun right rest =>
              extend primary operators depth least (.binary left found right) rest := by
  rw [extend, Operator.next?]
  cases h : Operator.first? operators cursor.remaining with
  | none => rw [operator_of_none h]; rfl
  | some found =>
      rw [operator_of_some h]
      by_cases hleast : least ≤ found.precedence
      · simp [Option.filter, Operator.atLeast, hleast, Int.not_lt.mpr hleast]
      · simp [Option.filter, Operator.atLeast, hleast, Int.not_le.mp hleast]

/-- Grows `left` by all the operators of at least the precedence `least` that follow. -/
def grow (primary : Parser (Tree α)) (operators : List Operator) (least : Int) (left : Tree α) :
    Parser (Tree α) := fun cursor =>
  extend primary operators (cursor.remaining.length + 1) least left cursor

theorem grow_of_none {primary : Parser (Tree α)} {operators : List Operator} {least : Int}
    {left : Tree α} {cursor : Cursor}
    (h : Operator.next? (Operator.atLeast least) operators cursor.remaining = none) :
    grow primary operators least left cursor = .matched left cursor := by
  rw [grow, extend_succ, h]

/-- Reads an expression of the operators of at least the precedence `least`, with calls nested as deep as
`depth` allows. -/
def climbWithin (primary : Parser (Tree α)) (operators : List Operator) (least : Int)
    (depth : Text → Nat) : Parser (Tree α) := fun cursor =>
  (primary cursor).andThen fun left rest =>
    extend primary operators (depth rest.remaining) least left rest

/-- Reads an expression of the operators of at least the precedence `least`. -/
def climb (primary : Parser (Tree α)) (operators : List Operator) (least : Int) :
    Parser (Tree α) :=
  primary.climbWithin operators least fun text => text.length + 1

theorem climb_eq (primary : Parser (Tree α)) (operators : List Operator) (least : Int)
    (cursor : Cursor) :
    climb primary operators least cursor =
      (primary cursor).andThen fun left rest => grow primary operators least left rest :=
  rfl

/-- An operand as a tree. -/
def leaf (operand : Parser α) : Parser (Tree α) := operand.map .leaf

/-- Reads `body` between `opening` and `closing`, or else an operand. -/
def groupOr (operand : Parser α) (opening : Parser β) (body : Parser (Tree α))
    (closing : Parser γ) : Parser (Tree α) :=
  ((between opening body closing).map fun parts => parts.2.1).orElse operand.leaf

section GroupOr

variable {operand : Parser α} {opening : Parser β} {body : Parser (Tree α)} {closing : Parser γ}
  {cursor rest : Cursor} {tree : Tree α}

/-- A match is a group, or an operand where no group matches. -/
theorem groupOr_eq_matched_iff :
    operand.groupOr opening body closing cursor = .matched tree rest ↔
      (∃ start stop, between opening body closing cursor = .matched (start, tree, stop) rest) ∨
        (∃ failure, between opening body closing cursor = .failed failure) ∧
          ∃ value, operand cursor = .matched value rest ∧ .leaf value = tree := by
  rw [groupOr, orElse_eq_matched_iff]
  simp only [Parser.map, leaf, Reply.map_eq_matched_iff, Reply.map_eq_failed_iff]
  refine or_congr_left ⟨?_, ?_⟩
  · intro h
    rcases h with ⟨⟨start, body, stop⟩, hgroup, rfl⟩
    exact ⟨start, stop, hgroup⟩
  · intro h
    rcases h with ⟨start, stop, hgroup⟩
    exact ⟨(start, tree, stop), hgroup, rfl⟩

end GroupOr

/-- Reads a group or else an operand, with groups nested less than `levels` deep.  The body of a
group is an expression of all operators of precedence zero or more, whatever the threshold
outside; its calls are nested as deep as `depth` allows. -/
def nestedGroup (operand : Parser α) (opening : Parser β) (closing : Parser γ)
    (operators : List Operator) (depth : Text → Nat) : Nat → Parser (Tree α)
  | 0, _ => .fault .diverged
  | levels + 1, cursor =>
      groupOr operand opening
        (climbWithin (nestedGroup operand opening closing operators depth levels) operators 0 depth)
        closing cursor

/-- Reads a group or else an operand, with groups nested less deep than `levels` allows. -/
def groupWithin (operand : Parser α) (opening : Parser β) (closing : Parser γ)
    (operators : List Operator) (depth levels : Text → Nat) : Parser (Tree α) := fun cursor =>
  nestedGroup operand opening closing operators depth (levels cursor.remaining) cursor

/-- Reads a group or else an operand. -/
def group (operand : Parser α) (opening : Parser β) (closing : Parser γ)
    (operators : List Operator) : Parser (Tree α) :=
  groupWithin operand opening closing operators (fun text => text.length + 1)
    fun text => text.length + 1

end Parser

/-- A parser of expressions: what an operand is, the operator table, and the least precedence that
is read. -/
structure ExpressionParser (α : Type) where
  primary : Parser (Tree α)
  operators : List Operator
  minPrecedence : Int := 0

namespace ExpressionParser

variable {α β γ : Type}

/-- Expressions over bare operands. -/
def plain (operand : Parser α) (operators : List Operator) : ExpressionParser α where
  primary := operand.leaf
  operators := operators

/-- Expressions over operands and groups. -/
def grouped (operand : Parser α) (opening : Parser β) (closing : Parser γ)
    (operators : List Operator) : ExpressionParser α where
  primary := operand.group opening closing operators
  operators := operators

/-- Expressions over operands and groups, within bounds on the expressions inside groups and on the
nesting of groups. -/
def groupedWithin (operand : Parser α) (opening : Parser β) (closing : Parser γ)
    (operators : List Operator) (depth levels : Text → Nat) : ExpressionParser α where
  primary := operand.groupWithin opening closing operators depth levels
  operators := operators

/-- The same expressions, restricted to operators of another least precedence. -/
def withMinPrecedence (expression : ExpressionParser α) (least : Int) : ExpressionParser α :=
  { expression with minPrecedence := least }

/-- The parser, with calls nested as deep as `depth` allows. -/
def parserWithin (expression : ExpressionParser α) (depth : Text → Nat) : Parser (Tree α) :=
  expression.primary.climbWithin expression.operators expression.minPrecedence depth

/-- The parser itself. -/
def parser (expression : ExpressionParser α) : Parser (Tree α) :=
  expression.parserWithin fun text => text.length + 1

/-- What an expression parser shows of itself. -/
def describe (expression : ExpressionParser α) : String :=
  "ExpressionParser \x7b operators: [" ++
    ", ".intercalate (expression.operators.map Operator.describe) ++ "], min_precedence: " ++
    toString expression.minPrecedence ++ ", .. \x7d"

end ExpressionParser

end ParserCombinators
