import ParserCombinators.Expression.Tree

/-!
# Reading an expression without grouping it

Operands and infix operators alternate, an operand first and an operand last.  Reading goes on as
long as an operator comes next that is accepted; once an operator has been consumed an operand
has to follow.

As in other loops the number of rounds has a bound that is a function of the text, and the parsers
without one in their names set one more than there are characters.
-/

namespace ParserCombinators.Parser

variable {α : Type}

/-- Reads accepted operators with an operand behind each, in at most `rounds` rounds. -/
def moreTokens (accepts : Operator → Bool) (operand : Parser α) (operators : List Operator) :
    Nat → Parser (List (Token α))
  | 0, _ => .fault .diverged
  | rounds + 1, cursor =>
      (operator operators cursor).andThen fun next behind =>
        match next with
        | none => .matched [] cursor
        | some found =>
            if accepts found then
              (operand behind).andThen fun value rest =>
                (moreTokens accepts operand operators rounds rest).map fun tokens =>
                  .operator found :: .operand value :: tokens
            else .matched [] cursor

/-- A round reads the operator that comes next and an operand, or stops where no accepted operator
comes next. -/
theorem moreTokens_succ (accepts : Operator → Bool) (operand : Parser α)
    (operators : List Operator) (rounds : Nat) (cursor : Cursor) :
    moreTokens accepts operand operators (rounds + 1) cursor =
      match Operator.next? accepts operators cursor.remaining with
      | none => .matched [] cursor
      | some found =>
          (operand (cursor.past found.symbol)).andThen fun value rest =>
            (moreTokens accepts operand operators rounds rest).map fun tokens =>
              .operator found :: .operand value :: tokens := by
  rw [moreTokens, Operator.next?]
  cases h : Operator.first? operators cursor.remaining with
  | none => rw [operator_of_none h]; rfl
  | some found =>
      rw [operator_of_some h]
      by_cases haccepts : accepts found = true <;> simp [Option.filter, haccepts]

/-- Reads accepted operators with an operand behind each, as many as there are. -/
def tokensAfter (accepts : Operator → Bool) (operand : Parser α) (operators : List Operator) :
    Parser (List (Token α)) := fun cursor =>
  moreTokens accepts operand operators (cursor.remaining.length + 1) cursor

/-- Reads an operand, and operators with an operand behind each as long as they are accepted, in as
many rounds as `rounds` allows. -/
def tokensWhileWithin (accepts : Operator → Bool) (operand : Parser α) (operators : List Operator)
    (rounds : Text → Nat) : Parser (List (Token α)) := fun cursor =>
  (operand cursor).andThen fun value rest =>
    (moreTokens accepts operand operators (rounds rest.remaining) rest).map fun tokens =>
      .operand value :: tokens

/-- Reads an operand, and operators with an operand behind each as long as they are accepted. -/
def tokensWhile (accepts : Operator → Bool) (operand : Parser α) (operators : List Operator) :
    Parser (List (Token α)) :=
  tokensWhileWithin accepts operand operators fun text => text.length + 1

theorem tokensWhile_eq (accepts : Operator → Bool) (operand : Parser α) (operators : List Operator)
    (cursor : Cursor) :
    tokensWhile accepts operand operators cursor =
      (operand cursor).andThen fun value rest =>
        (tokensAfter accepts operand operators rest).map fun tokens => .operand value :: tokens :=
  rfl

/-- Reads an operand, and operators with an operand behind each as long as there are any, in as many
rounds as `rounds` allows. -/
def tokenizeWithin (operand : Parser α) (operators : List Operator) (rounds : Text → Nat) :
    Parser (List (Token α)) :=
  tokensWhileWithin (fun _ => true) operand operators rounds

/-- Reads an operand, and operators with an operand behind each as long as there are any. -/
def tokenize (operand : Parser α) (operators : List Operator) : Parser (List (Token α)) :=
  tokensWhile (fun _ => true) operand operators

end ParserCombinators.Parser
