import ParserCombinators.CharClass.Ranges

/-!
# The property White_Space

The characters that Unicode 17.0 counts as white space.  Besides the ASCII blanks these are the
next line control, the no-break spaces that are spaces, the typographic spaces and the line and
paragraph separators.
-/

namespace ParserCombinators.CharClass

/-- The characters with the property White_Space. -/
def blank : Ranges := [
  (0x9, 0xD), (0x20, 0x20), (0x85, 0x85), (0xA0, 0xA0), (0x1680, 0x1680), (0x2000, 0x200A),
  (0x2028, 0x2029), (0x202F, 0x202F), (0x205F, 0x205F), (0x3000, 0x3000)]

end ParserCombinators.CharClass
