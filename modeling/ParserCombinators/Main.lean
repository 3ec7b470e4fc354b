import ParserCombinators.Calculator.Report

/-!
# The calculator as a program

Prints the report on the expressions that are given as arguments.
-/

/-- Reports on the arguments. -/
def main (arguments : List String) : IO Unit :=
  IO.print (ParserCombinators.Calculator.report arguments)
