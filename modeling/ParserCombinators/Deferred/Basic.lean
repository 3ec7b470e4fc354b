import ParserCombinators.Parser.Complete

/-!
# Parsers built on first use

A deferred parser carries a factory.  The factory runs when the parser is first needed and its
result is kept.  What the factory does besides building is visible in a state `σ` that it passes
on, which is how one can tell when and how often it ran.  A copy shares the factory and nothing
else.
-/

namespace ParserCombinators

/-- A parser that is built when it is first needed. -/
structure Deferred (σ α : Type) where
  factory : σ → Parser α × σ
  built : Option (Parser α) := none

namespace Deferred

variable {σ α : Type}

/-- The factory has run. -/
def isBuilt (deferred : Deferred σ α) : Bool := deferred.built.isSome

/-- The parser, and the deferred parser that now holds it. -/
def get (deferred : Deferred σ α) (state : σ) : Parser α × Deferred σ α × σ :=
  match deferred.built with
  | some parser => (parser, deferred, state)
  | none =>
      let (parser, after) := deferred.factory state
      (parser, { deferred with built := some parser }, after)

/-- What a deferred parser reads. -/
def parser (deferred : Deferred σ α) (state : σ) : Parser α := (deferred.get state).1

/-- A copy, which has not been built whatever the state of the one it is copied from. -/
def copy (deferred : Deferred σ α) : Deferred σ α := { deferred with built := none }

/-- What a deferred parser shows of itself. -/
def describe (deferred : Deferred σ α) : String :=
  s!"Lazy \x7b built: {deferred.isBuilt}, .. \x7d"

end Deferred

end ParserCombinators
