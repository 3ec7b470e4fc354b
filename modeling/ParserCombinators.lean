import ParserCombinators.Calculator.Notation
import ParserCombinators.Calculator.Report
import ParserCombinators.Composed
import ParserCombinators.Deferred.Pool
import ParserCombinators.Main
import ParserCombinators.NestedList
import ParserCombinators.Proofs.Contract.Basic
import ParserCombinators.Proofs.Contract.Combinators
import ParserCombinators.Proofs.Contract.Composed
import ParserCombinators.Proofs.Conservation
import ParserCombinators.Proofs.FailurePlaces
import ParserCombinators.Proofs.MoveSafety
import ParserCombinators.Proofs.Shift.Basic
import ParserCombinators.Proofs.Shift.Combinators
import ParserCombinators.Proofs.PositionIndependence
import ParserCombinators.Proofs.Expression.Progress
import ParserCombinators.Proofs.Expression.FlatLoop
import ParserCombinators.Proofs.Expression.Grouping
import ParserCombinators.Proofs.Expression.Nesting
import ParserCombinators.Proofs.Expression.Termination
import ParserCombinators.Proofs.Digits
import ParserCombinators.Proofs.Calculator.Lexical
import ParserCombinators.Proofs.Calculator.Notation
import ParserCombinators.Proofs.Expression.Symbols
import ParserCombinators.Proofs.Calculator.Language
import ParserCombinators.Proofs.Calculator.Totality
import ParserCombinators.Proofs.QuotedText
import ParserCombinators.Proofs.Alternation
import ParserCombinators.Proofs.Calculator.Parentheses
import ParserCombinators.Proofs.Expression.DeclarationOrder
import ParserCombinators.Proofs.Recursion
import ParserCombinators.Proofs.Repetition.Items
import ParserCombinators.Proofs.NestedList
import ParserCombinators.Proofs.Region.Isolation
import ParserCombinators.Proofs.Region.Leftover
import ParserCombinators.Proofs.Region.Placement
import ParserCombinators.Proofs.Region.Relocation
import ParserCombinators.Proofs.Region.Search
import ParserCombinators.Proofs.Region.Tail
import ParserCombinators.Proofs.Repetition.Values
import ParserCombinators.Proofs.Repetition.Separators
import ParserCombinators.Proofs.Repetition.Runs
import ParserCombinators.Proofs.Moves
import ParserCombinators.Proofs.BuiltOnce
import ParserCombinators.Proofs.Calculator.Arithmetic
import ParserCombinators.Proofs.Expression.Written
import ParserCombinators.Proofs.Bounds
