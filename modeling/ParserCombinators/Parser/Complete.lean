import ParserCombinators.Parser.Basic
import ParserCombinators.Text.Escaped

/-!
# Parsing a whole text

A text is accepted when the parser matches and leaves nothing over.  Input that is left over is an
error of its own, which says where it starts and what it is.
-/

namespace ParserCombinators

/-- Why a whole text is not accepted. -/
inductive ParseError where
  /-- The parser failed. -/
  | mismatch (message : String) (position : Position)
  /-- The parser matched a part of the text only. -/
  | trailing (remaining : Text) (position : Position)
  deriving DecidableEq, Repr

namespace ParseError

/-- The place that an error speaks of. -/
def position : ParseError → Position
  | .mismatch _ position => position
  | .trailing _ position => position

/-- The wording of an error. -/
def message : ParseError → String
  | .mismatch message position => s!"parse failed at {position.render}: {message}"
  | .trailing remaining position =>
      s!"unexpected trailing input at {position.render}: {String.ofList remaining.showQuoted}"

end ParseError

/-- A failure as an error that no longer refers to the input. -/
def Failure.toError (failure : Failure) : ParseError :=
  .mismatch failure.message failure.cursor.position

/-- What parsing a whole text gives. -/
inductive Verdict (α : Type) where
  | accepted (value : α)
  | rejected (error : ParseError)
  | fault (cause : Fault)
  deriving DecidableEq, Repr

namespace Reply

variable {α : Type}

/-- Reads a reply as the verdict on all of the input. -/
def verdict : Reply α → Verdict α
  | .matched value rest =>
      if rest.atEnd then .accepted value
      else .rejected (.trailing rest.remaining rest.position)
  | .failed failure => .rejected failure.toError
  | .fault cause => .fault cause

end Reply

/-- Runs a parser over the whole of a text. -/
def Parser.parseComplete {α : Type} (p : Parser α) (text : Text) : Verdict α :=
  (p.parse text).verdict

/-- A text is accepted exactly when the parser matches all of it. -/
theorem Parser.parseComplete_eq_accepted_iff {α : Type} {p : Parser α} {text : Text} {value : α} :
    p.parseComplete text = .accepted value ↔
      ∃ rest, p.parse text = .matched value rest ∧ rest.remaining = [] := by
  unfold parseComplete
  cases p.parse text with
  | matched found rest =>
      by_cases hend : rest.remaining = []
      · constructor
        · intro h
          have hvalue : found = value := by simpa [Reply.verdict, Cursor.atEnd, hend] using h
          exact ⟨rest, by rw [hvalue], hend⟩
        · intro h
          rcases h with ⟨place, hmatch, -⟩
          cases hmatch
          simp [Reply.verdict, Cursor.atEnd, hend]
      · constructor
        · intro h
          simp [Reply.verdict, Cursor.atEnd, hend] at h
        · intro h
          rcases h with ⟨place, hmatch, hplace⟩
          cases hmatch
          exact absurd hplace hend
  | failed failure => simp [Reply.verdict]
  | fault cause => simp [Reply.verdict]

theorem Parser.parseComplete_eq_fault_iff {α : Type} {p : Parser α} {text : Text} {cause : Fault} :
    p.parseComplete text = .fault cause ↔ p.parse text = .fault cause := by
  unfold parseComplete
  cases p.parse text with
  | matched found rest => by_cases hend : rest.atEnd = true <;> simp [Reply.verdict, hend]
  | failed failure => simp [Reply.verdict]
  | fault cause => simp [Reply.verdict]

end ParserCombinators
