import ParserCombinators.Expression.Tree
import ParserCombinators.Integer
import ParserCombinators.Parser.Complete

/-!
# Evaluating expressions of integers

Every intermediate result has to fit into 64 bits.  Division truncates toward zero and the
remainder has the sign of the dividend; a remainder is only defined when its quotient fits.  The
left operand is evaluated before the right one, and the first error is the result.
-/

namespace ParserCombinators.Calculator

/-- Why an input has no value. -/
inductive CalcError where
  /-- The input is not an expression. -/
  | parse (error : ParseError)
  /-- The divisor of a division or a remainder is zero. -/
  | divisionByZero
  /-- The result of one operation does not fit. -/
  | overflow (left : Int) (symbol : Text) (right : Int)
  /-- An operator that has no meaning. -/
  | unknownOperator (symbol : Text)
  /-- The parser is at fault. -/
  | fault (cause : Fault)
  deriving DecidableEq, Repr

/-- The wording of an error. -/
def CalcError.message : CalcError → String
  | .parse error => error.message
  | .divisionByZero => "division by zero"
  | .overflow left symbol right =>
      s!"arithmetic overflow in '{left} {String.ofList symbol} {right}'"
  | .unknownOperator symbol => s!"unsupported operator '{String.ofList symbol}'"
  | .fault cause => cause.message

/-- A result that fits into 64 bits. -/
def fit? (n : Int) : Option Int := if Integer.Fits n then some n else none

/-- The five operations. -/
inductive Operation where
  | add
  | subtract
  | multiply
  | divide
  | remainder
  deriving DecidableEq, Repr

namespace Operation

/-- The operation that a symbol stands for. -/
def ofSymbol? : Text → Option Operation
  | ['+'] => some .add
  | ['-'] => some .subtract
  | ['*'] => some .multiply
  | ['/'] => some .divide
  | ['%'] => some .remainder
  | _ => none

/-- The operation has a divisor. -/
def divides : Operation → Bool
  | .divide | .remainder => true
  | .add | .subtract | .multiply => false

/-- The result of an operation on unbounded integers. -/
def exact : Operation → Int → Int → Int
  | .add, left, right => left + right
  | .subtract, left, right => left - right
  | .multiply, left, right => left * right
  | .divide, left, right => left.tdiv right
  | .remainder, left, right => left.tmod right

/-- The result of an operation when it and, for a remainder, its quotient fit. -/
def checked : Operation → Int → Int → Option Int
  | .remainder, left, right => (fit? (left.tdiv right)).map fun _ => left.tmod right
  | operation, left, right => fit? (operation.exact left right)

end Operation

/-- Applies the operator `symbol` to two values. -/
def applySymbol (symbol : Text) (left right : Int) : Except CalcError Int :=
  match Operation.ofSymbol? symbol with
  | none => .error (.unknownOperator symbol)
  | some operation =>
      if operation.divides ∧ right = 0 then .error .divisionByZero
      else
        match operation.checked left right with
        | none => .error (.overflow left symbol right)
        | some result => .ok result

/-- The value of an expression. -/
def evaluate : Tree Int → Except CalcError Int
  | .leaf value => .ok value
  | .binary left operator right =>
      match evaluate left with
      | .error error => .error error
      | .ok leftValue =>
          match evaluate right with
          | .error error => .error error
          | .ok rightValue => applySymbol operator.symbol leftValue rightValue

end ParserCombinators.Calculator
