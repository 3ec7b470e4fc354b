import ParserCombinators.Parser.Basic

/-!
# Alternatives

Alternatives are tried in order from the same cursor, and the first match wins.  When none
matches, the failures of all of them are joined.
-/

namespace ParserCombinators.Parser

variable {α : Type}

/-- Tries `second` where `first` fails. -/
protected def orElse (first second : Parser α) : Parser α := fun cursor =>
  (first cursor).recover fun left =>
    (second cursor).recover fun right => .failed (.join cursor [left, right])

theorem orElse_eq_matched_iff {first second : Parser α} {cursor rest : Cursor} {value : α} :
    first.orElse second cursor = .matched value rest ↔
      first cursor = .matched value rest ∨
        (∃ failure, first cursor = .failed failure) ∧ second cursor = .matched value rest := by
  unfold Parser.orElse
  cases first cursor with
  | matched found place => simp
  | failed failure => cases second cursor <;> simp
  | fault cause => simp

/-- Tries each parser in turn; `failures` are those of the parsers tried so far. -/
def choiceAfter (failures : List Failure) : List (Parser α) → Parser α
  | [], cursor =>
      if failures.isEmpty then .mismatch cursor .noAlternatives
      else .failed (.join cursor failures)
  | p :: others, cursor =>
      (p cursor).recover fun failure => choiceAfter (failures ++ [failure]) others cursor

/-- The first of several alternatives that matches. -/
def choice (alternatives : List (Parser α)) : Parser α := choiceAfter [] alternatives

/-- Reads a value if there is one, and stays in place otherwise. -/
def optional (p : Parser α) : Parser (Option α) := fun cursor =>
  (p cursor).handle (fun value rest => .matched (some value) rest)
    fun _ => .matched none cursor

end ParserCombinators.Parser
