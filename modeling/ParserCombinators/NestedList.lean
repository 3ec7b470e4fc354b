import ParserCombinators.Parser.Complete
import ParserCombinators.Parser.Recursion
import ParserCombinators.Parser.Repeat
import ParserCombinators.Parser.Char

/-!
# Nested lists

The smallest grammar with recursion: a list is written between square brackets with commas between
its elements, and an element is a letter, a digit or a list.
-/

namespace ParserCombinators

/-- A character or a list of such things. -/
inductive NestedList where
  | leaf (c : Char)
  | list (items : List NestedList)

namespace NestedList

/-- What an element is, given a parser for the elements of a list. -/
def element (nested : Parser NestedList) : Parser NestedList :=
  (Parser.letterOrDigit.map .leaf).orElse
    ((Parser.between (.char '[') (nested.sepBy1 (.char ',') false).optional (.char ']')).map
      fun parts => .list (parts.2.1.getD []))

/-- The grammar, which has one rule. -/
def rules : Rules Unit fun _ => NestedList where
  count := 1
  body := fun env _ => element (env ())

/-- Reads an element. -/
def parser : Parser NestedList := rules.parser ()

mutual

/-- How an element is written. -/
def print : NestedList → Text
  | .leaf c => [c]
  | .list items => '[' :: printItems items ++ [']']

/-- How the elements of a list are written, with commas between them. -/
def printItems : List NestedList → Text
  | [] => []
  | [item] => print item
  | item :: next :: rest => print item ++ ',' :: printItems (next :: rest)

end

mutual

/-- The leaves are letters and digits. -/
def Plain : NestedList → Prop
  | .leaf c => CharClass.isLetterOrDigit c = true
  | .list items => PlainItems items

/-- The leaves of every element are letters and digits. -/
def PlainItems : List NestedList → Prop
  | [] => True
  | item :: rest => Plain item ∧ PlainItems rest

end

end NestedList

end ParserCombinators
