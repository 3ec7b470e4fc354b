import ParserCombinators.CharClass.Basic
import ParserCombinators.Expression.Tree
import ParserCombinators.Integer

/-!
# How expressions of integers are written

`Renders operators level text tree` gives the grammar of the calculator as a relation, without
saying how to parse it.  At a level only operators of at least that precedence may stand outside
parentheses; parentheses start again at level zero, and blanks may stand around every number and
every parenthesis.
-/

namespace ParserCombinators.Calculator

/-- Nothing but blanks. -/
def Blank (text : Text) : Prop := ∀ c ∈ text, CharClass.isBlank c = true

/-- A number that fits into 64 bits, in any number of digits. -/
structure Numeral (digits : Text) : Prop where
  ne_nil : digits ≠ []
  isDigit : ∀ c ∈ digits, c.isDigit = true
  fits : Integer.Fits (Integer.ofDigits digits)

/-- The text is a way to write the tree where operators below the level need parentheses. -/
inductive Renders (operators : List Operator) : Int → Text → Tree Int → Prop
  | number {level : Int} {before digits after : Text} :
      Blank before → Numeral digits → Blank after →
        Renders operators level (before ++ digits ++ after) (.leaf (Integer.ofDigits digits))
  | group {level : Int} {before opened body closed after : Text} {tree : Tree Int} :
      Blank before → Blank opened → Renders operators 0 body tree → Blank closed → Blank after →
        Renders operators level
          (before ++ '(' :: opened ++ body ++ closed ++ ')' :: after) tree
  | binary {level : Int} {left right : Text} {leftTree rightTree : Tree Int}
      {operator : Operator} :
      operator ∈ operators → operator.fixity = .infixOp → level ≤ operator.precedence →
        Renders operators operator.precedence left leftTree →
        Renders operators (operator.precedence + 1) right rightTree →
          Renders operators level (left ++ operator.symbol ++ right)
            (.binary leftTree operator rightTree)

end ParserCombinators.Calculator
