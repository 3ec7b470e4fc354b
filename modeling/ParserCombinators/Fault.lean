import ParserCombinators.Position

/-!
# Faults

A fault is not an answer about the input.  It says that a parser was put together wrongly: it
claims to have consumed text that is not there, uses an offset that is not a place in the text, or
repeats itself without ever moving on.  No combinator recovers from a fault.
-/

namespace ParserCombinators

/-- What can go wrong apart from the input not matching. -/
inductive Fault where
  /-- A step over a character that does not come next. -/
  | notNext (c : Char)
  /-- An advance over a text that does not start the remaining input. -/
  | notAhead (text : Text)
  /-- An advance by more characters than remain. -/
  | tooFar (count : Nat) (position : Position)
  /-- A byte offset past the end of the text or inside a character. -/
  | badOffset (bytes : Nat)
  /-- A stretch of input whose end lies before its start. -/
  | reversed
  /-- A repetition or recursion that outlived every bound the input sets. -/
  | diverged
  deriving DecidableEq, Repr

/-- The wording of a fault. -/
def Fault.message : Fault → String
  | .notNext c => s!"the next character is not '{c}'"
  | .notAhead text => s!"the remaining input does not start with '{String.ofList text}'"
  | .tooFar count position =>
      s!"ParseContext: cannot advance by {count} characters at {position.render}"
  | .badOffset bytes => s!"byte offset {bytes} is not on a character boundary"
  | .reversed => "the end of a stretch of input lies before its start"
  | .diverged => "the parser does not terminate"

end ParserCombinators
