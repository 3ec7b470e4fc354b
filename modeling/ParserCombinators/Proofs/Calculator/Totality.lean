import ParserCombinators.Proofs.Calculator.Arithmetic
import ParserCombinators.Proofs.Expression.Termination
import ParserCombinators.Proofs.MoveSafety

/-!
# The calculator always answers

Over any operator table and with any least precedence, an expression of integers is read to a match or a
failure (`integers_ne_fault`), and so each text has a value or an error that speaks of the text
(`calculate_ne_fault`).

A fault of the parser could be one of two things.  A move out of bounds does not occur because the parts
of the grammar have none (`Contract.inBounds`).  A bound that is run out of does not occur because
reading ends: numbers and parentheses consume something even under an operator whose symbol is empty, so
nothing has to be known about the table.
-/

namespace ParserCombinators

/-! ## Parts of the grammar -/

namespace Parser

variable {α : Type}

theorem terminating_takeWhile1 (wanted : Char → Bool) : Terminating (takeWhile1 wanted) := by
  intro cursor hfault
  by_cases hrun : cursor.remaining.takeWhile wanted = []
  · obtain ⟨reason, hother⟩ := takeWhile1_of_nil hrun
    rw [hother] at hfault
    cases hfault
  · rw [takeWhile1_eq hrun] at hfault
    cases hfault

theorem terminating_integer : Terminating integer := by
  intro cursor
  apply Reply.andThen_ne_diverged (terminating_takeWhile1 _ cursor)
  intro digits rest _
  split <;> simp [Reply.mismatch]

theorem consuming_integer : Consuming integer := by
  intro cursor value rest hmatch
  obtain ⟨digits, hdigits, hnumeral, -, rfl⟩ := integer_eq_matched_iff.mp hmatch
  have hrun : digits <+: cursor.remaining := hdigits ▸ List.takeWhile_prefix _
  have hpos : 0 < digits.length := List.length_pos_iff.mpr hnumeral.ne_nil
  rw [Cursor.remaining_of_isPrefix hrun, List.length_append]
  omega

theorem terminating_spaced {p : Parser α} (hp : Terminating p) : Terminating p.spaced := by
  intro cursor
  rw [spaced_eq]
  exact Reply.andThen_ne_diverged (hp _) fun _ _ _ hfault => by cases hfault

theorem consuming_spaced {p : Parser α} (hp : Consuming p) : Consuming p.spaced := by
  intro cursor value rest hmatch
  obtain ⟨behind, hinside, rfl⟩ := spaced_eq_matched_iff.mp hmatch
  have hlt := hp _ _ _ hinside
  obtain ⟨before, -, hbefore⟩ := exists_of_pastBlank cursor
  obtain ⟨after, -, hafter⟩ := exists_of_pastBlank behind
  rw [hbefore, List.length_append]
  rw [hafter, List.length_append] at hlt
  omega

end Parser

/-! ## Expressions of integers -/

namespace Calculator

open ParserCombinators.Parser (spaced)

theorem terminating_integers (operators : List Operator) (least : Int) :
    Terminating ((integers operators).withMinPrecedence least).parser := by
  have hbegins : Consuming (spaced (.char '(')) :=
    Parser.consuming_spaced (Parser.consuming_char _)
  have hadvancing : Advancing (spaced .integer) operators :=
    ⟨conserving_spaced_integer, fun _ _ _ =>
      .inr (Parser.consuming_spaced Parser.consuming_integer)⟩
  have hchar (c : Char) : Terminating (spaced (.char c)) :=
    Parser.terminating_spaced (Parser.terminating_char c)
  have hopening := conserving_spaced_char '('
  have hclosing := conserving_spaced_char ')'
  apply Parser.terminating_climb (Parser.advancing_group hadvancing hopening hclosing hbegins)
  exact Parser.terminating_group hadvancing (Parser.terminating_spaced Parser.terminating_integer)
    hopening hclosing (hchar '(') (hchar ')') hbegins

theorem movesInBounds_integers (operators : List Operator) (least : Int) :
    MovesInBounds ((integers operators).withMinPrecedence least).parser := by
  have hchar (c : Char) : Contract.inBounds.KeptBy (spaced (.char c)) :=
    (Contract.inBounds.keptBy_char c).spaced
  have hprimary : Contract.inBounds.KeptBy (integers operators).primary :=
    Contract.inBounds.keptBy_integer.spaced.group (hchar '(') (hchar ')') operators
  exact Contract.keptBy_inBounds_iff.mp (hprimary.climb operators least)

theorem integers_ne_fault (operators : List Operator) (least : Int) (text : Text) (cause : Fault) :
    ((integers operators).withMinPrecedence least).parser.parseComplete text ≠ .fault cause := by
  intro hverdict
  have hreply := Parser.parseComplete_eq_fault_iff.mp hverdict
  by_cases hcause : cause = .diverged
  · subst hcause
    exact terminating_integers operators least _ hreply
  · exact movesInBounds_integers operators least _ cause hcause hreply

/-! ## Values -/

theorem applySymbol_ne_fault (symbol : Text) (left right : Int) (cause : Fault) :
    applySymbol symbol left right ≠ .error (.fault cause) := by
  unfold applySymbol
  cases Operation.ofSymbol? symbol with
  | none => simp
  | some operation =>
      dsimp only
      split
      · simp
      · cases operation.checked left right <;> simp

theorem evaluate_ne_fault (tree : Tree Int) (cause : Fault) :
    evaluate tree ≠ .error (.fault cause) := by
  induction tree with
  | leaf value => simp [evaluate]
  | binary left operator right ihleft ihright =>
      rw [evaluate]
      cases hleft : evaluate left with
      | error error =>
          rw [hleft] at ihleft
          simpa using ihleft
      | ok leftValue =>
          cases hright : evaluate right with
          | error error =>
              rw [hright] at ihright
              simpa using ihright
          | ok rightValue => exact applySymbol_ne_fault operator.symbol leftValue rightValue cause

/-- The calculator gives a value, or an error of the text or of its arithmetic. -/
theorem calculate_ne_fault (text : Text) (cause : Fault) :
    calculate text ≠ .error (.fault cause) := by
  intro herror
  rcases calculate_eq_error_iff.mp herror with
    ⟨tree, -, hevaluate⟩ | ⟨reason, -, hreason⟩ | ⟨found, hfound, -⟩
  · exact evaluate_ne_fault tree cause hevaluate
  · cases hreason
  · exact integers_ne_fault operators 0 text found hfound

end Calculator

end ParserCombinators
