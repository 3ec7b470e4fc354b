import ParserCombinators.Parser.Basic
import ParserCombinators.Text.Escaped

/-!
# Operators

An operator table lists operators in the order in which they are tried.  Only infix operators take
part in expressions; the others may stand in a table and are skipped.  Where the symbols of
several infix operators match, the first one in the table is taken.
-/

namespace ParserCombinators

/-- Where an operator stands with respect to its operands. -/
inductive Fixity where
  | infixOp
  | prefixOp
  | postfixOp
  deriving DecidableEq, Repr

/-- An operator symbol with its precedence.  A higher precedence binds tighter. -/
structure Operator where
  fixity : Fixity := .infixOp
  symbol : Text
  precedence : Int
  deriving DecidableEq, Repr

/-- How a fixity is shown. -/
def Fixity.describe : Fixity → String
  | .infixOp => "Infix"
  | .prefixOp => "Prefix"
  | .postfixOp => "Postfix"

namespace Operator

/-- How an operator is shown. -/
def describe (operator : Operator) : String :=
  "Operator \x7b kind: " ++ operator.fixity.describe ++ ", text: " ++
    String.ofList operator.symbol.showQuoted ++ ", precedence: " ++ toString operator.precedence ++
    " \x7d"

/-- The operator is an infix operator and its symbol starts the text. -/
def starts (operator : Operator) (text : Text) : Bool :=
  operator.fixity = .infixOp && operator.symbol.isPrefixOf text

/-- The infix operator that a table finds at the start of a text. -/
def first? (operators : List Operator) (text : Text) : Option Operator :=
  operators.find? fun operator => operator.starts text

/-- The infix operator that a table finds at the start of a text, if it is an accepted one. -/
def next? (accepts : Operator → Bool) (operators : List Operator) (text : Text) :
    Option Operator :=
  (first? operators text).filter accepts

/-- The operator binds at least as tightly as a threshold asks for. -/
def atLeast (least : Int) (operator : Operator) : Bool := decide (least ≤ operator.precedence)

theorem first?_eq_some {operators : List Operator} {text : Text} {found : Operator}
    (h : first? operators text = some found) :
    found ∈ operators ∧ found.fixity = .infixOp ∧ found.symbol <+: text := by
  unfold first? at h
  have hstarts : found.starts text = true := by simpa using List.find?_some h
  simp only [starts, Bool.and_eq_true, decide_eq_true_eq, List.isPrefixOf_iff_prefix] at hstarts
  exact ⟨List.mem_of_find?_eq_some h, hstarts⟩

/-- The order of the table decides, and not the length of the symbols. -/
example : first? [⟨.infixOp, ['-'], 10⟩, ⟨.infixOp, ['-', '>'], 20⟩] ['-', '>', '3'] =
    some ⟨.infixOp, ['-'], 10⟩ := by
  decide

theorem next?_eq_some_iff {accepts : Operator → Bool} {operators : List Operator} {text : Text}
    {found : Operator} :
    next? accepts operators text = some found ↔
      first? operators text = some found ∧ accepts found = true :=
  Option.filter_eq_some_iff

end Operator

/-- Reads the infix operator that comes next, if there is one. -/
def Parser.operator (operators : List Operator) : Parser (Option Operator) := fun cursor =>
  match Operator.first? operators cursor.remaining with
  | none => .matched none cursor
  | some found => .afterMove (cursor.advance found.symbol) fun rest => .matched (some found) rest

namespace Parser

variable {operators : List Operator} {cursor : Cursor}

theorem operator_of_none (h : Operator.first? operators cursor.remaining = none) :
    operator operators cursor = .matched none cursor := by
  rw [operator, h]

theorem operator_of_some {found : Operator}
    (h : Operator.first? operators cursor.remaining = some found) :
    operator operators cursor = .matched (some found) (cursor.past found.symbol) := by
  have hsymbol : found.symbol <+: cursor.remaining := (Operator.first?_eq_some h).2.2
  simp [operator, h, Cursor.advance_eq_past hsymbol]

end Parser

end ParserCombinators
