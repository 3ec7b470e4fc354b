import ParserCombinators.Calculator.Basic

/-!
# The report of the calculator

Each input has a line of its own: the input, padded to a common width, and its value or the reason
why it has none.
-/

namespace ParserCombinators.Calculator

/-- The number of characters that an input takes up at least. -/
def inputWidth : Nat := 32

/-- Fills a text up with spaces on the right. -/
def padRight (width : Nat) (text : Text) : Text :=
  text ++ List.replicate (width - text.length) ' '

/-- The line for one input. -/
def reportLine (input : Text) : String :=
  String.ofList (padRight inputWidth input) ++
    match calculate input with
    | .ok value => s!" = {value}\n"
    | .error error => s!" ! {error.message}\n"

/-- The inputs that are shown when none are given. -/
def samples : List String := [
  "42",
  "1 + 25 * 589",
  "(1 + 25) * 589",
  "1021 / 7 + 2 * ((7 - 2) * 3)",
  "10 - 4 - 3",
  "8 / (4 - 4)",
  "1 + ",
  "2 * 3 )"]

/-- The whole report on the given inputs. -/
def report (inputs : List String) : String :=
  let shown := if inputs.isEmpty then samples else inputs
  "=== Calculator Example ===\n\n" ++ String.join (shown.map fun input => reportLine input.toList)

end ParserCombinators.Calculator
