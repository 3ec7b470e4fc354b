import ParserCombinators.Calculator.Evaluate
import ParserCombinators.Expression.Climb
import ParserCombinators.Parser.Number

/-!
# A calculator

Reads expressions of unsigned integers with the usual precedences, parentheses and blanks anywhere
between the parts, and evaluates them.
-/

namespace ParserCombinators.Calculator

/-- The operators, sums binding less tightly than products. -/
def operators : List Operator := [
  { symbol := ['+'], precedence := 10 },
  { symbol := ['-'], precedence := 10 },
  { symbol := ['*'], precedence := 20 },
  { symbol := ['/'], precedence := 20 },
  { symbol := ['%'], precedence := 20 }]

/-- Integers with parentheses, over any operator table. -/
def integers (operators : List Operator) : ExpressionParser Int :=
  .grouped (Parser.spaced .integer) (Parser.spaced (.char '(')) (Parser.spaced (.char ')'))
    operators

/-- The expressions of the calculator. -/
def expression : ExpressionParser Int := integers operators

/-- The value of the expression written in a text. -/
def calculate (text : Text) : Except CalcError Int :=
  match expression.parser.parseComplete text with
  | .accepted tree => evaluate tree
  | .rejected error => .error (.parse error)
  | .fault cause => .error (.fault cause)

end ParserCombinators.Calculator
