import ParserCombinators.Parser.Basic

/-!
# Rules that refer to each other

A grammar with recursion is a table of rules, each written in terms of parsers for all of them.
`Rules.unfold` cuts the recursion off at a depth, and `Rules.parser` chooses the depth by an estimate.
Going down the rules, the input does not get longer when everything in them consumes what it matches.
As long as it stays the same it is read either from where it stood or, once inside a region, from
position zero; so there are at most two cursors for each length, and a rule entered twice at one cursor
never ends.

The estimate is proved for rules that refer to rules only behind something that they have consumed: one
level for each character is enough for those, and `Rules.Productive.parser_eq` removes the depth.  For
other tables nothing is proved about it.  Laws of all parsers hold at every depth and do not need it.
-/

namespace ParserCombinators

/-- A table of rules with names in `ι`, of which the rule `r` reads values of type `τ r`. -/
structure Rules (ι : Type) (τ : ι → Type) where
  /-- How many names there are. -/
  count : Nat
  /-- What each rule is, given the parsers that stand for references to rules. -/
  body : (∀ r, Parser (τ r)) → ∀ r, Parser (τ r)

namespace Rules

variable {ι : Type} {τ : ι → Type}

/-- The rules with references followed `depth` deep. -/
def unfold (rules : Rules ι τ) : Nat → ∀ r, Parser (τ r)
  | 0, _, _ => .fault .diverged
  | depth + 1, r, cursor => rules.body (rules.unfold depth) r cursor

/-- The depth that is chosen for an input of `length` characters. -/
def depthFor (rules : Rules ι τ) (length : Nat) : Nat := 2 * rules.count * (length + 1)

/-- The rule `r` as a parser. -/
def parser (rules : Rules ι τ) (r : ι) : Parser (τ r) := fun cursor =>
  rules.unfold (rules.depthFor cursor.remaining.length) r cursor

end Rules

end ParserCombinators
