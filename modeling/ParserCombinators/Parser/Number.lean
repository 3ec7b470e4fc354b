import ParserCombinators.Integer
import ParserCombinators.Parser.Run

/-!
# Numbers

An unsigned decimal number takes the whole run of digits.  When a number on the way to its value does
not fit into 64 bits the parser fails where the run starts, as if no digit had been read.
-/

namespace ParserCombinators.Parser

/-- Reads one or more ASCII digits as an integer of 64 bits. -/
def integer : Parser Int := fun cursor =>
  (takeWhile1 Char.isDigit cursor).andThen fun digits rest =>
    match Integer.ofDigits? digits with
    | some value => .matched value rest
    | none => .mismatch cursor (.numberTooLarge digits)

end ParserCombinators.Parser
